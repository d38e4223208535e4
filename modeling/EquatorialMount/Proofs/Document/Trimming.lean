import EquatorialMount.Proofs.Document.Reading
import EquatorialMount.Proofs.Document.Same

/-!
# Documents that lose entries

An entry that is erased from a document that was read is gone from the collection at its top, and from nowhere else
(`ChangedAtTop`).  So whatever the document holds is of the same kind as before, and it is the same as before unless the
document is found in it once more (`ChangedAtTop.same_holding`).
-/

namespace EquatorialMount

open Entries

variable {α : Type}

/-! ### Kinds of views -/

namespace View

variable {δ ε : Type}

/-- The values right below a value. -/
def below : View α δ → List δ
  | list items => items
  | map entries => entries.map (·.2)
  | _ => []

/-- Two views of values of one kind: one atom, or both a list, both a mapping or both a set. -/
inductive Alike : View α δ → View α ε → Prop
  | atom (a : Atom α) : Alike (.atom a) (.atom a)
  | list (items : List δ) (items' : List ε) : Alike (.list items) (.list items')
  | map (entries : List (Atom α × δ)) (entries' : List (Atom α × ε)) : Alike (.map entries) (.map entries')
  | set (members members' : List (Atom α)) : Alike (.set members) (.set members')

private theorem Rel.alike {R : δ → ε → Prop} {v : View α δ} {w : View α ε} (h : View.Rel R v w) : Alike v w := by
  cases h with
  | atom a => exact .atom a
  | list _ => exact .list _ _
  | map _ => exact .map _ _
  | set members => exact .set _ _

end View

namespace Document

/-! ### What is found in a document -/

/-- The document is the other one, or is found somewhere below it. -/
inductive Within (e : Document α) : Document α → Prop
  | self : Within e e
  | deeper {d x : Document α} (hx : x ∈ d.view.below) (h : Within e x) : Within e d

/-! ### Another collection at the top -/

/-- The second document is the first one, except that the collection it is may be another one. -/
structure ChangedAtTop (d e : Document α) : Prop where
  content_eq : e.content = d.content
  collections_eq {n : Nat} (hn : d.content ≠ .leaf (.collection n)) : e.collections[n]? = d.collections[n]?

namespace ChangedAtTop

variable {d e f : Document α} {v : Value α}

theorem refl (d : Document α) : d.ChangedAtTop d := ⟨rfl, fun _ => rfl⟩

theorem trans (h : d.ChangedAtTop e) (h' : e.ChangedAtTop f) : d.ChangedAtTop f :=
  ⟨h'.content_eq.trans h.content_eq, fun hn =>
    (h'.collections_eq (h.content_eq.symm ▸ hn)).trans (h.collections_eq hn)⟩

private theorem entries?_holding (h : d.ChangedAtTop e) (hv : v ≠ d.content) :
    (e.holding v).entries? = (d.holding v).entries? := by
  cases v with
  | map own => rfl
  | leaf held =>
    cases held with
    | leaf l => rfl
    | collection n =>
      have hn : e.collections[n]? = d.collections[n]? := h.collections_eq (Ne.symm hv)
      unfold entries? holding
      simp only [hn]

/-- What is not the document itself shows what it showed, each value below it with the other table. -/
private theorem view_rel (h : d.ChangedAtTop e) (hv : v ≠ d.content) :
    View.Rel (fun x y => ∃ u, x = e.holding u ∧ y = d.holding u ∧ y ∈ (d.holding v).view.below) (e.holding v).view
      (d.holding v).view := by
  have hentries := h.entries?_holding hv
  cases hown : (d.holding v).entries? with
  | some own =>
    rw [hown] at hentries
    rw [view_of_entries hown, view_of_entries hentries]
    refine .map ?_
    rw [List.forall₂_map_left_iff, List.forall₂_map_right_iff, List.forall₂_same]
    intro entry hentry
    exact ⟨rfl, entry.2, rfl, rfl, List.mem_map_of_mem (List.mem_map_of_mem hentry)⟩
  | none =>
    cases v with
    | map own => cases hown
    | leaf held =>
      cases held with
      | leaf l => exact .atom l.atom
      | collection n =>
        have hn : e.collections[n]? = d.collections[n]? := h.collections_eq (Ne.symm hv)
        rw [hown] at hentries
        unfold view
        rw [hown, hentries]
        simp only [holding, hn]
        split
        · refine .list ?_
          rw [List.forall₂_map_left_iff, List.forall₂_map_right_iff, List.forall₂_same]
          intro held hheld
          exact ⟨.leaf held, rfl, rfl, List.mem_map_of_mem hheld⟩
        · exact .set _
        · exact .atom .null

/-- If both documents are mappings, whatever they hold is of one kind in both. -/
theorem alike_holding (h : d.ChangedAtTop e) {entries kept : List (Leaf α × Value α)}
    (hentries : d.entries? = some entries) (hkept : e.entries? = some kept) (v : Value α) :
    View.Alike (e.holding v).view (d.holding v).view := by
  by_cases hv : v = d.content
  · have hd : d.holding v = d := by rw [hv]; rfl
    have he : e.holding v = e := by rw [hv, ← h.content_eq]; rfl
    rw [hd, he, view_of_entries hentries, view_of_entries hkept]
    exact .map _ _
  · exact (h.view_rel hv).alike

theorem isSome_entries?_holding (h : d.ChangedAtTop e) {kept : List (Leaf α × Value α)}
    (hkept : e.entries? = some kept) (hv : (d.holding v).entries?.isSome) : (e.holding v).entries?.isSome := by
  by_cases htop : v = d.content
  · have he : e.holding v = e := by rw [htop, ← h.content_eq]; rfl
    rw [he, hkept]
    rfl
  · rwa [h.entries?_holding htop]

/-- Where the first document is not found, both hold the same. -/
theorem same_holding (h : d.ChangedAtTop e) (hv : ¬Within d (d.holding v)) : (e.holding v).Same (d.holding v) := by
  refine ⟨fun x y => ∃ u, x = e.holding u ∧ y = d.holding u ∧ ¬Within d (d.holding u), ?_, v, rfl, rfl, hv⟩
  rintro x y ⟨u, rfl, rfl, hu⟩
  have hne : u ≠ d.content := by
    rintro rfl
    exact hu .self
  refine (h.view_rel hne).mono ?_
  rintro x y ⟨w, rfl, rfl, hmem⟩
  exact ⟨w, rfl, rfl, fun hwithin => hu (.deeper hmem hwithin)⟩

end ChangedAtTop

/-! ### Erasing -/

section Erasing

variable [NumberReading α] {d : Document α}

theorem changedAtTop_erase (h : d.Separated) (key : Atom α) : d.ChangedAtTop (d.erase key) := by
  obtain ⟨content, collections⟩ := d
  obtain ⟨held, rfl⟩ := h.content
  cases held with
  | leaf l => exact .refl _
  | collection m =>
    refine ⟨rfl, fun {n} hn => ?_⟩
    have hne : m ≠ n := by
      rintro rfl
      exact hn rfl
    show (collections.modify m _)[n]? = collections[n]?
    rw [Array.getElem?_modify, if_neg hne]

theorem Separated.erase (h : d.Separated) (key : Atom α) : (d.erase key).Separated := by
  obtain ⟨content, collections⟩ := d
  obtain ⟨held, rfl⟩ := h.content
  cases held with
  | leaf l => exact h
  | collection m =>
    refine ⟨⟨_, rfl⟩, fun c hc => ?_⟩
    obtain ⟨n, hn⟩ := Array.mem_iff_getElem?.1 hc
    change (collections.modify m _)[n]? = some c at hn
    rw [Array.getElem?_modify] at hn
    split at hn
    · obtain ⟨c', hc', rfl⟩ := Option.map_eq_some_iff.1 hn
      have hseparated : c'.Separated := h.collections c' (Array.mem_of_getElem? hc')
      cases c' with
      | map own => exact List.Pairwise.sublist erase_sublist hseparated
      | _ => exact hseparated
    · exact h.collections c (Array.mem_of_getElem? hn)

end Erasing

end Document

end EquatorialMount

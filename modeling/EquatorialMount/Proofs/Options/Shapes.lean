import EquatorialMount.Proofs.Document.Trimming
import EquatorialMount.Proofs.Options.Reopening

/-!
# The shapes of options

Options are accepted from a document without a value and from a mapping whose two sections are usable: each is missing,
has no value or is a mapping itself.  What is accepted has the two sections in front, each with its default entry first,
and the other entries of the document behind them as they were (`ofDocument_of_usable`).  So whatever a store was opened
from, its offset and its latitude are there to be read (`entry_of_kept`).
-/

namespace EquatorialMount

open Entries EquatorialMount.Tree

variable {α : Type}

/-! ### Views of one kind -/

namespace View.Alike

variable {δ ε : Type} {v : View α δ} {w : View α ε}

private theorem kindName_eq (h : Alike v w) : v.kindName = w.kindName := by
  cases h <;> rfl

private theorem eq_null_iff (h : Alike v w) : v = .atom .null ↔ w = .atom .null := by
  cases h <;> simp

private theorem eq_map_iff (h : Alike v w) : (∃ shown, v = .map shown) ↔ ∃ shown, w = .map shown := by
  cases h <;> simp

end View.Alike

/-- Whether a section can have this value: nothing, or a mapping. -/
def View.isUsable {δ : Type} : View α δ → Bool
  | .atom .null | .map _ => true
  | _ => false

private theorem View.isUsable_iff {δ : Type} {v : View α δ} :
    v.isUsable = true ↔ v = .atom .null ∨ ∃ shown, v = .map shown := by
  cases v with
  | atom a => cases a <;> simp [isUsable]
  | _ => simp [isUsable]

variable [NumberReading α]

/-! ### Entries under texts -/

namespace Entries

variable {τ υ : Type} {entries : List (Leaf α × τ)} {s : ScalarText}

/-- What is under a text comes up once. -/
private theorem map_filter_text (h : Distinct entries) :
    (entries.filter (Leaf.new (.text s) == ·.1)).map (·.2) = (get? (.new (.text s)) entries).toList := by
  induction entries with
  | nil => rfl
  | cons head rest ih =>
    unfold get?
    by_cases hkey : head.1.atom = .text s
    · have hrest : rest.filter (Leaf.new (.text s) == ·.1) = [] := by
        rw [List.filter_eq_nil_iff]
        intro e he heq
        exact h.ne_of_text hkey he (Leaf.text_beq.1 heq)
      rw [List.filter_cons_of_pos (by simpa using hkey), hrest, if_pos (Leaf.beq_text.2 hkey)]
      rfl
    · rw [List.filter_cons_of_neg (by simpa using hkey), if_neg (mt Leaf.beq_text.1 hkey)]
      exact ih h.tail

private theorem erase_text (h : Distinct entries) :
    erase (.new (.text s)) entries = entries.filter (!Leaf.new (.text s) == ·.1) := by
  induction entries with
  | nil => rfl
  | cons head rest ih =>
    unfold erase
    by_cases hkey : head.1.atom = .text s
    · have hrest : rest.filter (!Leaf.new (.text s) == ·.1) = rest := by
        rw [List.filter_eq_self]
        intro e he
        simpa using Leaf.text_beq_eq_false.2 (h.ne_of_text hkey he)
      rw [List.filter_cons_of_neg (by simpa using hkey), hrest, if_pos (Leaf.beq_text.2 hkey)]
    · rw [List.filter_cons_of_pos (by simpa using Leaf.text_beq_eq_false.2 hkey), if_neg (mt Leaf.beq_text.1 hkey),
        ih h.tail]

private theorem get?_filter {p : Leaf α × τ → Bool} (hp : ∀ e, e.1.atom = .text s → p e = true) :
    get? (.new (.text s)) (entries.filter p) = get? (.new (.text s)) entries := by
  induction entries with
  | nil => rfl
  | cons head rest ih =>
    by_cases hkey : head.1.atom = .text s
    · rw [List.filter_cons_of_pos (hp head hkey)]
      unfold get?
      rw [if_pos (Leaf.beq_text.2 hkey), if_pos (Leaf.beq_text.2 hkey)]
    · have hrest : get? (.new (.text s)) (head :: rest) = get? (.new (.text s)) rest :=
        if_neg (mt Leaf.beq_text.1 hkey)
      cases hhead : p head with
      | true =>
        rw [List.filter_cons_of_pos hhead, hrest, ← ih]
        exact if_neg (mt Leaf.beq_text.1 hkey)
      | false => rw [List.filter_cons_of_neg (by simp [hhead]), hrest, ih]

private theorem get?_map {f : Leaf α × τ → υ} {g : τ → υ} (hfg : ∀ e, e.1.atom = .text s → f e = g e.2) :
    get? (.new (.text s)) (entries.map fun e => (e.1, f e)) = (get? (.new (.text s)) entries).map g := by
  induction entries with
  | nil => rfl
  | cons head rest ih =>
    rw [List.map_cons]
    unfold get?
    by_cases hkey : head.1.atom = .text s
    · rw [if_pos (Leaf.beq_text.2 hkey), if_pos (Leaf.beq_text.2 hkey), hfg head hkey]
      rfl
    · rw [if_neg (mt Leaf.beq_text.1 hkey), if_neg (mt Leaf.beq_text.1 hkey)]
      exact ih

end Entries

namespace Options

variable {d : Document α} {entries : List (Leaf α × Value α)}

/-! ### Sections without a value -/

/-- The section of this name is missing, has no value or is a mapping. -/
def Usable (name : String) (d : Document α) : Prop :=
  (d.entryOrNothing (.text name)).view = .atom .null ∨ ∃ shown, (d.entryOrNothing (.text name)).view = .map shown

instance (name : String) (d : Document α) : Decidable (Usable name d) := decidable_of_iff _ View.isUsable_iff

/-- The document without the section of this name, if that has no value. -/
def withoutNull (name : String) (d : Document α) : Document α :=
  match Option.map Document.view <| d.entry? (.text name) with
  | some (.atom .null) => d.erase (.text name)
  | _ => d

/-- The document without those of its two sections that have no value. -/
def withoutNulls (d : Document α) : Document α := withoutNull "polar_alignment" (withoutNull "rotator" d)

private theorem checkSection_of_usable {name : String} (h : Usable name d) (path : Path) :
    checkSection path name d = .ok (withoutNull name d) := by
  unfold Usable Document.entryOrNothing at h
  unfold checkSection withoutNull
  cases hentry : d.entry? (.text name) with
  | none => rfl
  | some found =>
    rw [hentry, Option.getD_some] at h
    rcases h with hnull | ⟨shown, hmap⟩
    · simp only [hnull, Option.map_some]
    · simp only [hmap, Option.map_some]

private theorem checkSection_of_not_usable {name : String} (h : ¬Usable name d) (path : Path) :
    checkSection path name d =
      .error (.sectionNotAMapping path name (d.entryOrNothing (.text name)).view.kindName) := by
  unfold Usable Document.entryOrNothing at h
  unfold checkSection Document.entryOrNothing
  cases hentry : d.entry? (.text name) with
  | none =>
    rw [hentry] at h
    exact absurd (.inl rfl) h
  | some found =>
    rw [hentry, Option.getD_some, not_or] at h
    obtain ⟨hnull, hmap⟩ := h
    simp only [Option.getD_some]
    split
    · rename_i shown hshown
      exact absurd ⟨shown, hshown⟩ hmap
    · rename_i hview
      exact absurd hview hnull
    · rfl

private theorem withoutNull_cases (name : String) (d : Document α) :
    withoutNull name d = d ∧ (∀ found, d.entry? (.text name) = some found → found.view ≠ .atom .null) ∨
      withoutNull name d = d.erase (.text name) := by
  unfold withoutNull
  split
  · exact .inr rfl
  · rename_i hne
    refine .inl ⟨rfl, fun found hfound hnull => ?_⟩
    rw [hfound, Option.map_some, hnull] at hne
    exact hne rfl

private theorem separated_withoutNull (h : d.Separated) (name : String) : (withoutNull name d).Separated := by
  rcases withoutNull_cases name d with ⟨heq, -⟩ | heq
  · rwa [heq]
  · rw [heq]
    exact h.erase _

private theorem changedAtTop_withoutNull (h : d.Separated) (name : String) : d.ChangedAtTop (withoutNull name d) := by
  rcases withoutNull_cases name d with ⟨heq, -⟩ | heq
  · rw [heq]
    exact .refl d
  · rw [heq]
    exact Document.changedAtTop_erase h _

/-- Leaving sections out changes nothing but the document itself. -/
private theorem changedAtTop_withoutNulls (h : d.Separated) : d.ChangedAtTop (withoutNulls d) :=
  (changedAtTop_withoutNull h "rotator").trans
    (changedAtTop_withoutNull (separated_withoutNull h "rotator") "polar_alignment")

/-- What is left of the entries: one of the name only if it has a value. -/
private theorem entries_withoutNull (hseparated : d.Separated) (hentries : d.entries? = some entries) (name : String) :
    ∃ p : Leaf α × Value α → Bool, (withoutNull name d).entries? = some (entries.filter p) ∧
      (∀ e, e.1.atom ≠ .text name → p e = true) ∧
      ∀ v, get? (.new (.text name)) (entries.filter p) = some v →
        get? (.new (.text name)) entries = some v ∧ (d.holding v).view ≠ .atom .null := by
  have hdistinct : Distinct entries := hseparated.distinct hentries
  rcases withoutNull_cases name d with ⟨heq, hvalue⟩ | heq
  · refine ⟨fun _ => true, ?_, fun _ _ => rfl, fun v hv => ?_⟩
    · rw [heq, hentries, List.filter_true]
    · rw [List.filter_true] at hv
      refine ⟨hv, hvalue _ ?_⟩
      rw [Document.entry?_of_entries hentries, hv]
      rfl
  · refine ⟨fun e => !Leaf.new (.text name) == e.1, ?_, fun e he => by simpa using Leaf.text_beq_eq_false.2 he,
      fun v hv => ?_⟩
    · rw [heq, Document.entries?_erase hentries, erase_text hdistinct]
    · rw [← erase_text hdistinct, get?_erase_self hdistinct] at hv
      cases hv

/-! ### Two sections -/

section Sections

variable {e : Document α} {kept : List (Leaf α × Value α)} {name : String}

private theorem entryOrNothing_alike (h : d.ChangedAtTop e) (hentries : d.entries? = some entries)
    (hkept : e.entries? = some kept)
    (hget : get? (.new (.text name)) kept = get? (.new (.text name)) entries) :
    View.Alike (e.entryOrNothing (.text name)).view (d.entryOrNothing (.text name)).view := by
  unfold Document.entryOrNothing
  rw [Document.entry?_of_entries hentries, Document.entry?_of_entries hkept, hget]
  cases get? (.new (.text name)) entries with
  | none => exact .atom .null
  | some v => exact h.alike_holding hentries hkept v

private theorem usable_iff_of_alike
    (h : View.Alike (e.entryOrNothing (.text name)).view (d.entryOrNothing (.text name)).view) :
    Usable name e ↔ Usable name d := or_congr h.eq_null_iff h.eq_map_iff

/-- A section that is left has a mapping. -/
private theorem isSome_of_usable (hentries : d.entries? = some entries) (hd : Usable name d) {v : Value α}
    (hv : get? (.new (.text name)) entries = some v) (hnull : (d.holding v).view ≠ .atom .null) :
    (d.holding v).entries?.isSome := by
  unfold Usable Document.entryOrNothing at hd
  rw [Document.entry?_of_entries hentries, hv] at hd
  rcases hd with hnone | ⟨shown, hshown⟩
  · exact absurd hnone hnull
  · obtain ⟨own, hown, -⟩ := Document.entries_of_view hshown
    exact Option.isSome_of_eq_some hown

end Sections

/-- Whether the first section is left out makes no difference to the second one. -/
private theorem alignment_alike (hseparated : d.Separated) (hentries : d.entries? = some entries) :
    View.Alike ((withoutNull "rotator" d).entryOrNothing alignmentKey).view (d.entryOrNothing alignmentKey).view := by
  obtain ⟨p, hleft, hp, -⟩ := entries_withoutNull hseparated hentries "rotator"
  have hget : get? (.new alignmentKey) (entries.filter p) = get? (.new alignmentKey) entries :=
    get?_filter fun e he => hp e fun heq => alignmentKey_ne_rotatorKey (he.symm.trans heq)
  exact entryOrNothing_alike (changedAtTop_withoutNull hseparated "rotator") hentries hleft hget

/-- Of two usable sections those without a value are left out, and the others are mappings. -/
private theorem entries_withoutNulls (hseparated : d.Separated) (hentries : d.entries? = some entries)
    (hr : Usable "rotator" d) (ha : Usable "polar_alignment" d) :
    ∃ p : Leaf α × Value α → Bool, (withoutNulls d).entries? = some (entries.filter p) ∧
      (∀ e, e.1.atom ≠ rotatorKey → e.1.atom ≠ alignmentKey → p e = true) ∧
      (∀ v, get? (.new rotatorKey) (entries.filter p) = some v → ((withoutNulls d).holding v).entries?.isSome) ∧
      ∀ v, get? (.new alignmentKey) (entries.filter p) = some v → ((withoutNulls d).holding v).entries?.isSome := by
  obtain ⟨p, hleft, hp, hrotator⟩ := entries_withoutNull hseparated hentries "rotator"
  have hbetween : (withoutNull "rotator" d).Separated := separated_withoutNull hseparated "rotator"
  have hchanged := changedAtTop_withoutNull hbetween "polar_alignment"
  obtain ⟨q, hkept, hq, halignment⟩ := entries_withoutNull hbetween hleft "polar_alignment"
  refine ⟨fun e => q e && p e, ?_, fun e hr ha => ?_, fun v hv => ?_, fun v hv => ?_⟩
  · rw [← List.filter_filter]
    exact hkept
  · simp [hq e ha, hp e hr]
  · rw [← List.filter_filter] at hv
    have hfilter : get? (.new rotatorKey) ((entries.filter p).filter q) = get? (.new rotatorKey) (entries.filter p) :=
      get?_filter fun e he => hq e fun heq => alignmentKey_ne_rotatorKey (heq.symm.trans he)
    obtain ⟨hfound, hnull⟩ := hrotator v (hfilter.symm.trans hv)
    exact ((changedAtTop_withoutNull hseparated "rotator").trans hchanged).isSome_entries?_holding hkept
      (isSome_of_usable hentries hr hfound hnull)
  · rw [← List.filter_filter] at hv
    obtain ⟨hfound, hnull⟩ := halignment v hv
    have husable : Usable "polar_alignment" (withoutNull "rotator" d) :=
      (usable_iff_of_alike (alignment_alike hseparated hentries)).2 ha
    exact hchanged.isSome_entries?_holding hkept (isSome_of_usable hleft husable hfound hnull)

/-! ### Which documents have sections -/

private theorem sectionsOf_mapping (hentries : d.entries? = some entries) (path : Path) :
    sectionsOf path d = checkSection path "rotator" d >>= checkSection path "polar_alignment" := by
  unfold sectionsOf
  rw [Document.view_of_entries hentries]
  rfl

private theorem sectionsOf_of_usable (hseparated : d.Separated) (hentries : d.entries? = some entries)
    (hr : Usable "rotator" d) (ha : Usable "polar_alignment" d) (path : Path) :
    sectionsOf path d = .ok (withoutNulls d) := by
  rw [sectionsOf_mapping hentries, checkSection_of_usable hr]
  exact checkSection_of_usable ((usable_iff_of_alike (alignment_alike hseparated hentries)).2 ha) path

private theorem sectionsOf_of_rotator (hentries : d.entries? = some entries) (hr : ¬Usable "rotator" d) (path : Path) :
    sectionsOf path d = .error (.sectionNotAMapping path "rotator" (d.entryOrNothing rotatorKey).view.kindName) := by
  rw [sectionsOf_mapping hentries, checkSection_of_not_usable hr]
  rfl

private theorem sectionsOf_of_alignment (hseparated : d.Separated) (hentries : d.entries? = some entries)
    (hr : Usable "rotator" d) (ha : ¬Usable "polar_alignment" d) (path : Path) :
    sectionsOf path d =
      .error (.sectionNotAMapping path "polar_alignment" (d.entryOrNothing alignmentKey).view.kindName) := by
  have halike := alignment_alike hseparated hentries
  rw [sectionsOf_mapping hentries, checkSection_of_usable hr, ← halike.kindName_eq]
  exact checkSection_of_not_usable ((usable_iff_of_alike halike).not.2 ha) path

private theorem sectionsOf_of_null (hnull : d.view = .atom .null) (path : Path) :
    sectionsOf path d = .ok (d.holding (.map [])) := by
  unfold sectionsOf
  rw [hnull]
  rfl

private theorem sectionsOf_of_other (hnull : d.view ≠ .atom .null) (hentries : d.entries? = none) (path : Path) :
    sectionsOf path d = .error (.notAMapping path d.view.kindName) := by
  unfold sectionsOf
  split
  · rename_i shown hshown
    obtain ⟨entries, hmap, -⟩ := Document.entries_of_view hshown
    rw [hentries] at hmap
    cases hmap
  · rename_i hview
    exact absurd hview hnull
  · rfl

/-! ### What is laid over the defaults -/

/-- The entries of the section of a name, none if it is missing or has no value. -/
def ownEntries (key : Atom α) (d : Document α) : List (Leaf α × Value α) := ((d.entryOrNothing key).entries?).getD []

/-- The entries of a section: first that of its default key, with the value it has there by default unless there is
another one, then the others in their order. -/
def completed (key : Atom α) (byDefault : Value α) (own : List (Leaf α × Value α)) : List (Leaf α × Value α) :=
  (.new key, (get? (.new key) own).getD byDefault) :: own.filter (!Leaf.new key == ·.1)

private theorem foldl_overlay_text {s : ScalarText} (h : Distinct entries) (t : Value α) :
    (entries.filter (.new (.text s) == ·.1)).foldl (fun t e => overlay (some t) e.2) t =
      ((get? (.new (.text s)) entries).map fun v => overlay (some t) v).getD t := by
  have hfold : (entries.filter (.new (.text s) == ·.1)).foldl (fun t e => overlay (some t) e.2) t =
      ((entries.filter (.new (.text s) == ·.1)).map (·.2)).foldl (fun t v => overlay (some t) v) t := by
    rw [List.foldl_map]
  rw [hfold, map_filter_text h]
  cases get? (.new (.text s)) entries <;> rfl

/-- A section laid over its default. -/
private theorem overlay_section {s : ScalarText} {own : List (Leaf α × Value α)} (h : Distinct own) (x : Held α) :
    overlay (some (.map [(.new (.text s), .leaf x)])) (.map own) = .map (completed (.text s) (.leaf x) own) := by
  have hothers : overlayEntries [] (own.filter (!Leaf.new (.text s) == ·.1)) =
      own.filter (!Leaf.new (.text s) == ·.1) := overlayEntries_append (h.sublist List.filter_sublist)
  rw [overlay_map, overlayEntries_cons, foldl_overlay_text h, hothers]
  unfold completed
  cases get? (.new (.text s)) own with
  | none => rfl
  | some v => rw [Option.map_some, overlay_leaf, Option.getD_some]

private theorem overlayEntries_text {s : ScalarText} (h : Distinct entries) (t : Value α)
    (lower : List (Leaf α × Value α)) :
    overlayEntries ((.new (.text s), t) :: lower) entries =
      (.new (.text s), ((get? (.new (.text s)) entries).map fun v => overlay (some t) v).getD t) ::
        overlayEntries lower (entries.filter (!Leaf.new (.text s) == ·.1)) := by
  rw [overlayEntries_cons, foldl_overlay_text h]

/-- The section that a document has under a name, laid over its default. -/
private theorem overlay_ownEntries {name key : ScalarText} (hseparated : d.Separated)
    (hentries : d.entries? = some entries)
    (hsome : ∀ v, get? (.new (.text name)) entries = some v → (d.holding v).entries?.isSome) (x : Held α) :
    (((get? (.new (.text name)) entries).map d.opened).map fun v =>
        overlay (some (.map [(.new (.text key), .leaf x)])) v).getD (.map [(.new (.text key), .leaf x)]) =
      .map (completed (.text key) (.leaf x) (ownEntries (.text name) d)) := by
  have hown : ∀ own, (d.entryOrNothing (.text name)).entries? = some own → Distinct own := fun _ =>
    (hseparated.entryOrNothing (.text name)).distinct
  unfold ownEntries
  unfold Document.entryOrNothing at hown ⊢
  rw [Document.entry?_of_entries hentries] at hown ⊢
  cases hget : get? (.new (.text name)) entries with
  | none => rfl
  | some v =>
    obtain ⟨own, hv⟩ := Option.isSome_iff_exists.1 (hsome v hget)
    rw [hget] at hown
    have hdistinct : Distinct own := hown own hv
    simp only [Option.map_some, Option.getD_some, Document.opened_of_entries hv, hv]
    exact overlay_section hdistinct x

section Overlay

variable [Scalar α]

/-- The entries under other keys than those of the two sections. -/
def otherEntries (entries : List (Leaf α × Value α)) : List (Leaf α × Value α) :=
  entries.filter fun e => !Entries.contains e.1 (defaultEntries : List (Leaf α × Value α))

/-- The entries of options: the two sections of a document, completed, and then the other entries. -/
def completedEntries (d : Document α) (others : List (Leaf α × Value α)) : List (Leaf α × Value α) :=
  (.new rotatorKey, .map (completed offsetKey (Document.atom (.number Scalar.zero)) (ownEntries rotatorKey d))) ::
    (.new alignmentKey, .map (completed latitudeKey (Document.atom .null) (ownEntries alignmentKey d))) :: others

/-- What the entries of a document are laid over the defaults as: its sections become mappings of their own. -/
private theorem upperEntries_eq (hentries : d.entries? = some entries) :
    upperEntries d = entries.map fun e =>
      (e.1, if Entries.contains e.1 (defaultEntries : List (Leaf α × Value α)) then d.opened e.2 else e.2) := by
  rw [upperEntries, hentries]
  rfl

private theorem otherEntries_upperEntries (hentries : d.entries? = some entries) :
    ((upperEntries d).filter (!Leaf.new rotatorKey == ·.1)).filter (!Leaf.new alignmentKey == ·.1) =
      otherEntries entries := by
  have hfilter : (entries.filter fun e => (!Leaf.new alignmentKey == e.1) && (!Leaf.new rotatorKey == e.1)) =
      otherEntries entries := by
    refine List.filter_congr fun e _ => ?_
    unfold Entries.contains defaultEntries Entries.get? Entries.get? Entries.get?
    cases Leaf.new rotatorKey == e.1 <;> cases Leaf.new alignmentKey == e.1 <;> rfl
  have hkept : ∀ e ∈ otherEntries entries,
      (e.1, if Entries.contains e.1 (defaultEntries : List (Leaf α × Value α)) then d.opened e.2 else e.2) = e := by
    intro e he
    have hother := (List.mem_filter.1 he).2
    rw [Bool.not_eq_true'] at hother
    rw [hother]
    rfl
  rw [upperEntries_eq hentries, List.filter_filter, List.filter_map]
  exact (congrArg _ hfilter).trans ((List.map_congr_left hkept).trans (List.map_id' _))

/-- A document with sections, laid over the defaults. -/
private theorem overlay_upperEntries (hseparated : d.Separated) (hentries : d.entries? = some entries)
    (hr : ∀ v, get? (.new rotatorKey) entries = some v → (d.holding v).entries?.isSome)
    (ha : ∀ v, get? (.new alignmentKey) entries = some v → (d.holding v).entries?.isSome) :
    overlayEntries defaultEntries (upperEntries d) = completedEntries d (otherEntries entries) := by
  have hdistinct : Distinct (upperEntries d) := by
    rw [upperEntries_eq hentries]
    exact (hseparated.distinct hentries).of_keys (by rw [List.map_map]; rfl)
  have hopened {s : ScalarText} (hkey : (.text s : Atom α) = rotatorKey ∨ (.text s : Atom α) = alignmentKey) :
      get? (.new (.text s)) (upperEntries d) = (get? (.new (.text s)) entries).map d.opened := by
    rw [upperEntries_eq hentries]
    exact get?_map fun e he => if_pos ((contains_defaultEntries e.1).2 (he ▸ hkey))
  have hbehind : get? (.new alignmentKey) ((upperEntries d).filter (!Leaf.new rotatorKey == ·.1)) =
      get? (.new alignmentKey) (upperEntries d) := by
    refine get?_filter fun e he => ?_
    rw [Bool.not_eq_true']
    exact Leaf.text_beq_eq_false.2 fun heq => alignmentKey_ne_rotatorKey (he.symm.trans heq)
  have hothers := otherEntries_upperEntries hentries
  have hapart : Distinct
      (((upperEntries d).filter (!Leaf.new rotatorKey == ·.1)).filter (!Leaf.new alignmentKey == ·.1)) :=
    (hdistinct.sublist List.filter_sublist).sublist List.filter_sublist
  have hrotator : overlayEntries defaultEntries (upperEntries d) =
      (.new rotatorKey, .map (completed offsetKey (Document.atom (.number Scalar.zero)) (ownEntries rotatorKey d))) ::
        overlayEntries [(.new alignmentKey, alignmentDefaults)]
          ((upperEntries d).filter (!Leaf.new rotatorKey == ·.1)) := by
    refine (overlayEntries_text hdistinct rotatorDefaults [(.new alignmentKey, alignmentDefaults)]).trans ?_
    rw [hopened (.inl rfl)]
    exact congrArg (fun t => (_, t) :: _) (overlay_ownEntries hseparated hentries hr _)
  have halignment : overlayEntries [(.new alignmentKey, alignmentDefaults)]
      ((upperEntries d).filter (!Leaf.new rotatorKey == ·.1)) =
      (.new alignmentKey, .map (completed latitudeKey (Document.atom .null) (ownEntries alignmentKey d))) ::
        overlayEntries [] (otherEntries entries) := by
    refine (overlayEntries_text (hdistinct.sublist List.filter_sublist) alignmentDefaults []).trans ?_
    rw [← hothers]
    refine congrArg (fun t => (_, t) :: _) ?_
    refine Eq.trans ?_ (overlay_ownEntries hseparated hentries ha _)
    exact congrArg (fun found => (Option.map _ found).getD _) (hbehind.trans (hopened (.inr rfl)))
  rw [hrotator, halignment, overlayEntries_append (hothers ▸ hapart)]
  rfl

/-- A mapping with two usable sections is accepted, with its sections completed in front of everything else. -/
theorem ofDocument_of_usable (hseparated : d.Separated) (hentries : d.entries? = some entries)
    (hr : Usable "rotator" d) (ha : Usable "polar_alignment" d) (path : Path) :
    ofDocument path d =
      .ok ((withoutNulls d).holding (.map (completedEntries (withoutNulls d) (otherEntries entries)))) := by
  obtain ⟨p, hkept, hp, hrotator, halignment⟩ := entries_withoutNulls hseparated hentries hr ha
  have hchecked : (withoutNulls d).Separated := separated_withoutNull (separated_withoutNull hseparated _) _
  have hothers : otherEntries (entries.filter p) = otherEntries entries := by
    unfold otherEntries
    rw [List.filter_filter]
    refine List.filter_congr fun e _ => ?_
    by_cases he : e.1.atom = rotatorKey ∨ e.1.atom = alignmentKey
    · simp [(contains_defaultEntries e.1).2 he]
    · rw [not_or] at he
      simp [hp e he.1 he.2]
  unfold ofDocument
  rw [sectionsOf_of_usable hseparated hentries hr ha]
  show Except.ok ((withoutNulls d).holding
    (.map (overlayEntries defaultEntries (upperEntries (withoutNulls d))))) = _
  rw [overlay_upperEntries hchecked hkept hrotator halignment, hothers]

private theorem ofDocument_of_null (hnull : d.view = .atom .null) (path : Path) :
    ofDocument path d = .ok (d.holding (.map defaultEntries)) := by
  unfold ofDocument
  rw [sectionsOf_of_null hnull]
  rfl

private theorem ofDocument_of_error {path : Path} {e : OptionsError} (h : sectionsOf path d = .error e) :
    ofDocument path d = .error e := by
  unfold ofDocument
  rw [h]
  rfl

/-! ### What a store always has -/

omit [Scalar α] in
private theorem entry?_of_first {key : Leaf α} {s : ScalarText} {v : Value α} {others : List (Leaf α × Value α)}
    (h : d.entries? = some ((key, v) :: others)) (hkey : key.atom = .text s) :
    d.entry? (.text s) = some (d.holding v) := by
  have hget : get? (.new (.text s)) ((key, v) :: others) = some v := if_pos (Leaf.beq_text.2 hkey)
  rw [Document.entry?_of_entries h, hget]
  rfl

/-- The sections of options and their default entries are there, so that nothing but the number that is stored can be
at fault. -/
theorem entries_of_arranged {store : OptionStore α} (h : Arranged store.config) :
    (∃ section_ stored, store.config.entry? rotatorKey = some section_ ∧ (∃ shown, section_.view = .map shown) ∧
      section_.entry? offsetKey = some stored ∧ ∀ e, store.offset = .error e → stored.view.toNumber = .error e) ∧
    ∃ section_ stored, store.config.entry? alignmentKey = some section_ ∧ (∃ shown, section_.view = .map shown) ∧
      section_.entry? latitudeKey = some stored ∧ ∀ e, store.latitude = .error e → stored.view.toNumber = .error e := by
  obtain ⟨a, ha⟩ := h
  have hentries := entries?_of_arrangement ha
  have hrotator : store.config.entry? rotatorKey = some (store.config.holding a.rotator.tree) :=
    entry?_of_first hentries rfl
  have hoffset : Document.entry? offsetKey (store.config.holding a.rotator.tree) =
      some (store.config.holding a.rotator.value) := entry?_of_first rfl rfl
  have halignment : store.config.entry? alignmentKey = some (store.config.holding a.alignment.tree) := by
    rw [alignmentKey, Document.entry?_of_entries hentries]
    exact congrArg (Option.map _) (get?_alignmentKey rfl rfl)
  have hlatitude : Document.entry? latitudeKey (store.config.holding a.alignment.tree) =
      some (store.config.holding a.alignment.value) := entry?_of_first rfl rfl
  refine ⟨⟨_, _, hrotator, ⟨_, Document.view_of_entries rfl⟩, hoffset, fun e he => ?_⟩,
    _, _, halignment, ⟨_, Document.view_of_entries rfl⟩, hlatitude, fun e he => ?_⟩
  · unfold OptionStore.offset Document.entryOrNothing at he
    rw [hrotator, Option.getD_some, hoffset, Option.getD_some] at he
    simp only at he
    split at he
    · cases he
    · exact he
  · unfold OptionStore.latitude OptionStore.rawLatitude Document.entryOrNothing at he
    rw [halignment, Option.getD_some, hlatitude, Option.getD_some] at he
    split at he
    · cases he
    · cases hnumber : (store.config.holding a.alignment.value).view.toNumber with
      | error e' =>
        rw [hnumber] at he
        cases he
        rfl
      | ok x =>
        rw [hnumber] at he
        cases he

end Overlay

/-! ### Files of options -/

/-- What becomes of a file from whatever document its text is read as.  Without a value it stands for the defaults; any
other document that is no mapping is refused, and so is a mapping with a section that is not usable, the first of the
two being named.  Every other mapping is accepted: its two sections are completed, and its other entries follow in their
order with what they hold.  Only the document itself may have lost anything, its sections without a value, so what it
holds is the same as before unless it is a collection that has the document in it.  And in all options that a store can
have, both sections and their default entries are there: the offset and the latitude fail only as their conversion
does. -/
theorem load_of_shape [Scalar α] {format : DocumentFormat α} (hformat : format.ReadsSeparated) {disk : Disk}
    {path : Path} {text : String} {d : Document α} (hexists : disk.doesExist path = .ok true)
    (htext : disk.read path = .ok text) (hread : format.read text = .ok d) :
    (d.view = .atom .null → ∃ config, load format disk path = .ok config ∧ config.content = defaults.content) ∧
    (d.view ≠ .atom .null → d.entries? = none →
      load format disk path = .error (.notAMapping path d.view.kindName)) ∧
    (∀ entries, d.entries? = some entries →
      (¬Usable "rotator" d →
        load format disk path =
          .error (.sectionNotAMapping path "rotator" (d.entryOrNothing rotatorKey).view.kindName)) ∧
      (Usable "rotator" d → ¬Usable "polar_alignment" d →
        load format disk path =
          .error (.sectionNotAMapping path "polar_alignment" (d.entryOrNothing alignmentKey).view.kindName)) ∧
      (Usable "rotator" d → Usable "polar_alignment" d →
        load format disk path =
            .ok ((withoutNulls d).holding (.map (completedEntries (withoutNulls d) (otherEntries entries)))) ∧
          d.ChangedAtTop (withoutNulls d) ∧
          ∀ v, withoutNulls d = d ∨ ¬d.Within (d.holding v) → ((withoutNulls d).holding v).Same (d.holding v))) ∧
    ∀ store : OptionStore α, Kept format store.config →
      (∃ section_ stored, store.config.entry? rotatorKey = some section_ ∧ (∃ shown, section_.view = .map shown) ∧
        section_.entry? offsetKey = some stored ∧ ∀ e, store.offset = .error e → stored.view.toNumber = .error e) ∧
      ∃ section_ stored, store.config.entry? alignmentKey = some section_ ∧ (∃ shown, section_.view = .map shown) ∧
        section_.entry? latitudeKey = some stored ∧
        ∀ e, store.latitude = .error e → stored.view.toNumber = .error e := by
  have hload : load format disk path = ofDocument path d := load_of_read hexists htext hread
  have hseparated : d.Separated := hformat hread
  rw [hload]
  refine ⟨fun hnull => ?_, fun hnull hentries => ?_, fun entries hentries => ⟨fun hr => ?_, fun hr ha => ?_,
    fun hr ha => ⟨?_, ?_, fun v hv => ?_⟩⟩, fun store hkept => ?_⟩
  · exact ⟨_, ofDocument_of_null hnull path, rfl⟩
  · exact ofDocument_of_error (sectionsOf_of_other hnull hentries path)
  · exact ofDocument_of_error (sectionsOf_of_rotator hentries hr path)
  · exact ofDocument_of_error (sectionsOf_of_alignment hseparated hentries hr ha path)
  · exact ofDocument_of_usable hseparated hentries hr ha path
  · exact changedAtTop_withoutNulls hseparated
  · rcases hv with hsame | hapart
    · rw [hsame]
      exact .refl _
    · exact (changedAtTop_withoutNulls hseparated).same_holding hapart
  · exact entries_of_arranged (OptionStore.arranged_of_kept hformat.separatesKeys hkept)

/-- A file with a section without a value, behind one that is in use and an entry of its own. -/
theorem load_of_shape_hill : ∃ text d entries,
    OptionStore.hillDisk.doesExist ⟨"mount.yaml"⟩ = .ok true ∧
      OptionStore.hillDisk.read ⟨"mount.yaml"⟩ = .ok text ∧ (DocumentFormat.yaml .asWritten).read text = .ok d ∧
      d.entries? = some entries ∧ Usable "rotator" d ∧ Usable "polar_alignment" d ∧
      (otherEntries entries).map (·.1.atom) = [.text "mount"] ∧
      load (.yaml .asWritten) OptionStore.hillDisk ⟨"mount.yaml"⟩ =
        .ok ((withoutNulls d).holding (.map (completedEntries (withoutNulls d) (otherEntries entries)))) := by
  have hexists : OptionStore.hillDisk.doesExist ⟨"mount.yaml"⟩ = .ok true := by decide +kernel
  have hcheck : (match OptionStore.hillDisk.read ⟨"mount.yaml"⟩ with
      | .error _ => false
      | .ok text =>
        match (DocumentFormat.yaml .asWritten).read text with
        | .error _ => false
        | .ok d =>
          match d.entries? with
          | none => false
          | some entries => decide (Usable "rotator" d ∧ Usable "polar_alignment" d ∧
              (otherEntries entries).map (·.1.atom) = [.text "mount"])) = true := by decide +kernel
  cases htext : OptionStore.hillDisk.read ⟨"mount.yaml"⟩ with
  | error e => simp only [htext, Bool.false_eq_true] at hcheck
  | ok text =>
    cases hread : (DocumentFormat.yaml .asWritten).read text with
    | error e => simp only [htext, hread, Bool.false_eq_true] at hcheck
    | ok d =>
      cases hentries : d.entries? with
      | none => simp only [htext, hread, hentries, Bool.false_eq_true] at hcheck
      | some entries =>
        simp only [htext, hread, hentries, decide_eq_true_eq] at hcheck
        obtain ⟨hr, ha, hkeys⟩ := hcheck
        obtain ⟨-, -, hmapping, -⟩ := load_of_shape DocumentFormat.readsSeparated_yaml hexists htext hread
        obtain ⟨hload, -, -⟩ := (hmapping entries hentries).2.2 hr ha
        exact ⟨text, d, entries, hexists, rfl, hread, hentries, hr, ha, hkeys, hload⟩

end Options

end EquatorialMount

import Mathlib.Data.List.Forall2
import Mathlib.Logic.Relation
import EquatorialMount.Proofs.Document.View

/-!
# Documents that are the same

Two documents are the same if nothing that they show tells them apart, however far one looks.  Their tables may differ:
what is one collection in several places of the one may be several collections in the other.  A document can contain
itself, so this is the greatest relation with that property and not one that could be checked to the end.
-/

namespace EquatorialMount

variable {α : Type}

/-- Two views of one shape, with the same atoms and keys and with related documents right below. -/
inductive View.Rel {δ ε : Type} (R : δ → ε → Prop) : View α δ → View α ε → Prop
  | atom (a : Atom α) : Rel R (.atom a) (.atom a)
  | list {items : List δ} {items' : List ε} (h : List.Forall₂ R items items') : Rel R (.list items) (.list items')
  | map {entries : List (Atom α × δ)} {entries' : List (Atom α × ε)}
      (h : List.Forall₂ (fun e f => e.1 = f.1 ∧ R e.2 f.2) entries entries') : Rel R (.map entries) (.map entries')
  | set (members : List (Atom α)) : Rel R (.set members) (.set members)

namespace View.Rel

variable {δ ε ζ : Type} {R S : δ → ε → Prop} {v : View α δ} {w : View α ε}

private theorem forall₂_comp {δ ε ζ : Type} {R : δ → ε → Prop} {R' : ε → ζ → Prop} {xs : List δ} {ys : List ε}
    {zs : List ζ} (h : List.Forall₂ R xs ys) (h' : List.Forall₂ R' ys zs) :
    List.Forall₂ (Relation.Comp R R') xs zs := by
  induction h generalizing zs with
  | nil =>
    cases h'
    exact .nil
  | cons hxy _ ih =>
    cases h' with
    | cons hyz h' => exact .cons ⟨_, hxy, hyz⟩ (ih h')

theorem mono (hRS : ∀ x y, R x y → S x y) (h : View.Rel R v w) : View.Rel S v w := by
  cases h with
  | atom a => exact .atom a
  | list h => exact .list (h.imp hRS)
  | map h => exact .map (h.imp fun e f he => ⟨he.1, hRS _ _ he.2⟩)
  | set members => exact .set members

theorem refl {R : δ → δ → Prop} (hR : ∀ x, R x x) (v : View α δ) : View.Rel R v v := by
  cases v with
  | atom a => exact .atom a
  | list items => exact .list (List.forall₂_same.2 fun x _ => hR x)
  | map entries => exact .map (List.forall₂_same.2 fun e _ => ⟨rfl, hR e.2⟩)
  | set members => exact .set members

theorem symm (h : View.Rel R v w) : View.Rel (fun y x => R x y) w v := by
  cases h with
  | atom a => exact .atom a
  | list h => exact .list h.flip
  | map h => exact .map (h.flip.imp fun f e hef => ⟨hef.1.symm, hef.2⟩)
  | set members => exact .set members

theorem trans {R' : ε → ζ → Prop} {u : View α ζ} (h : View.Rel R v w) (h' : View.Rel R' w u) :
    View.Rel (Relation.Comp R R') v u := by
  cases h with
  | atom a => cases h' with | atom _ => exact .atom a
  | set members => cases h' with | set _ => exact .set members
  | list h => cases h' with | list h' => exact .list (forall₂_comp h h')
  | map h =>
    cases h' with
    | map h' =>
      refine .map ((forall₂_comp h h').imp ?_)
      rintro e g ⟨f, hef, hfg⟩
      exact ⟨hef.1.trans hfg.1, f.2, hef.2, hfg.2⟩

theorem isEmpty_eq [Scalar α] (h : View.Rel R v w) : v.isEmpty = w.isEmpty := by
  cases h with
  | atom a => rfl
  | list h => cases h <;> rfl
  | map h => cases h <;> rfl
  | set members => rfl

theorem toNumber_eq [NumberReading α] (h : View.Rel R v w) : v.toNumber = w.toNumber := by
  cases h <;> rfl

end View.Rel

private theorem Entries.get?_rel {κ δ ε : Type} [BEq κ] {R : δ → ε → Prop} {entries : List (κ × δ)}
    {entries' : List (κ × ε)} (h : List.Forall₂ (fun e f => e.1 = f.1 ∧ R e.2 f.2) entries entries') (key : κ) :
    Option.Rel R (get? key entries) (get? key entries') := by
  induction h with
  | nil => exact .none
  | @cons e f _ _ hef _ ih =>
    obtain ⟨k, v⟩ := e
    obtain ⟨k', v'⟩ := f
    obtain ⟨rfl, hv⟩ := hef
    unfold get?
    split
    · exact .some hv
    · exact ih

namespace Document

/-- Two documents that nothing they show tells apart. -/
def Same (d e : Document α) : Prop :=
  ∃ R : Document α → Document α → Prop, (∀ a b, R a b → View.Rel R a.view b.view) ∧ R d e

variable {d e f : Document α}

theorem Same.view (h : d.Same e) : View.Rel Same d.view e.view := by
  obtain ⟨R, hR, hde⟩ := h
  exact (hR d e hde).mono fun a b hab => ⟨R, hR, hab⟩

private theorem Same.of_view (h : View.Rel Same d.view e.view) : d.Same e := by
  refine ⟨fun a b => a.Same b ∨ a = d ∧ b = e, ?_, .inr ⟨rfl, rfl⟩⟩
  rintro a b (hab | ⟨rfl, rfl⟩)
  · exact hab.view.mono fun x y hxy => .inl hxy
  · exact h.mono fun x y hxy => .inl hxy

theorem Same.refl (d : Document α) : d.Same d :=
  ⟨Eq, fun a _ hab => hab ▸ View.Rel.refl (fun _ => rfl) a.view, rfl⟩

theorem Same.symm (h : d.Same e) : e.Same d := by
  obtain ⟨R, hR, hde⟩ := h
  exact ⟨fun x y => R y x, fun a b hab => (hR b a hab).symm, hde⟩

theorem Same.trans (h : d.Same e) (h' : e.Same f) : d.Same f := by
  refine ⟨Relation.Comp Same Same, ?_, e, h, h'⟩
  rintro a c ⟨b, hab, hbc⟩
  exact hab.view.trans hbc.view

theorem Same.of_view_eq (h : d.view = e.view) : d.Same e := .of_view (h ▸ View.Rel.refl Same.refl d.view)

/-- Whether two documents are found to be the same before the fuel is used up. -/
def agree [DecidableEq α] : Nat → Document α → Document α → Bool
  | 0, _, _ => false
  | fuel + 1, d, e =>
    match d.view, e.view with
    | .atom a, .atom b => a = b
    | .list items, .list items' => items.isEqv items' (agree fuel)
    | .map entries, .map entries' => entries.isEqv entries' fun x y => x.1 = y.1 && agree fuel x.2 y.2
    | .set members, .set members' => members = members'
    | _, _ => false

private theorem forall₂_of_isEqv {δ : Type} {R : δ → δ → Prop} {eqv : δ → δ → Bool}
    (heqv : ∀ x y, eqv x y = true → R x y) {xs ys : List δ} (h : xs.isEqv ys eqv = true) : List.Forall₂ R xs ys := by
  induction xs generalizing ys with
  | nil =>
    cases ys with
    | nil => exact .nil
    | cons y ys => cases h
  | cons x xs ih =>
    cases ys with
    | nil => cases h
    | cons y ys =>
      rw [List.isEqv_cons_cons, Bool.and_eq_true] at h
      exact .cons (heqv x y h.1) (ih h.2)

theorem same_of_agree [DecidableEq α] {fuel : Nat} (h : agree fuel d e = true) : d.Same e := by
  induction fuel generalizing d e with
  | zero => cases h
  | succ fuel ih =>
    refine .of_view ?_
    unfold agree at h
    generalize d.view = v at h ⊢
    generalize e.view = w at h ⊢
    cases v <;> cases w <;> simp only [decide_eq_true_eq, Bool.false_eq_true] at h
    case atom.atom => exact h ▸ .atom _
    case set.set => exact h ▸ .set _
    case list.list items items' => exact .list (forall₂_of_isEqv (fun x y => ih) h)
    case map.map entries entries' =>
      refine .map (forall₂_of_isEqv (fun x y hxy => ?_) h)
      rw [Bool.and_eq_true, decide_eq_true_eq] at hxy
      exact ⟨hxy.1, ih hxy.2⟩

/-- Entries of two documents with the same atoms as keys and the same values. -/
def SameEntries (d e : Document α) : List (Leaf α × Value α) → List (Leaf α × Value α) → Prop :=
  List.Forall₂ fun x y => x.1.atom = y.1.atom ∧ (d.holding x.2).Same (e.holding y.2)

theorem SameEntries.atoms_eq {entries entries' : List (Leaf α × Value α)} (h : SameEntries d e entries entries') :
    entries.map (·.1.atom) = entries'.map (·.1.atom) := by
  induction h with
  | nil => rfl
  | cons hhead _ ih => rw [List.map_cons, List.map_cons, hhead.1, ih]

theorem Same.entries (h : d.Same e) {entries : List (Leaf α × Value α)} (hentries : e.entries? = some entries) :
    ∃ entries', d.entries? = some entries' ∧ SameEntries d e entries' entries := by
  have hview := h.view
  rw [view_of_entries hentries] at hview
  generalize hd : d.view = v at hview
  cases hview with
  | map hmap =>
    obtain ⟨entries', hentries', rfl⟩ := entries_of_view hd
    rw [List.forall₂_map_left_iff, List.forall₂_map_right_iff] at hmap
    exact ⟨entries', hentries', hmap⟩

theorem Same.sameEntries (h : d.Same e) {entries entries' : List (Leaf α × Value α)} (hd : d.entries? = some entries)
    (he : e.entries? = some entries') : SameEntries d e entries entries' := by
  obtain ⟨shown, hshown, hall⟩ := h.entries he
  rwa [Option.some.inj (hd.symm.trans hshown)]

theorem Same.of_entries {entries entries' : List (Leaf α × Value α)} (hd : d.entries? = some entries)
    (he : e.entries? = some entries') (h : SameEntries d e entries entries') : d.Same e := by
  refine .of_view ?_
  rw [view_of_entries hd, view_of_entries he]
  refine .map ?_
  rw [List.forall₂_map_left_iff, List.forall₂_map_right_iff]
  exact h

/-- Two documents that are the same but for what is at the end of a chain of keys: each document on the way is a mapping
with the same keys in the same order, and only the key of the chain may have another value. -/
def SameBut : List (Atom α) → Document α → Document α → Prop
  | [], _, _ => True
  | key :: chain, d, e => ∃ entries entries', d.view = .map entries ∧ e.view = .map entries' ∧
      List.Forall₂ (fun x y => x.1 = y.1 ∧ (x.1 = key → SameBut chain x.2 y.2) ∧ (x.1 ≠ key → x.2.Same y.2))
        entries entries'

theorem SameBut.trans_same {chain : List (Atom α)} (h : SameBut chain d e) (h' : e.Same f) : SameBut chain d f := by
  induction chain generalizing d e f with
  | nil => trivial
  | cons key chain ih =>
    obtain ⟨entries, entries', hd, he, hall⟩ := h
    have hview := h'.view
    rw [he] at hview
    generalize hf : f.view = v at hview
    cases hview with
    | @map _ entries'' hmap =>
      refine ⟨entries, entries'', hd, hf, (View.Rel.forall₂_comp hall hmap).imp ?_⟩
      rintro x z ⟨y, ⟨hxy, hchain, hother⟩, hyz, hsame⟩
      exact ⟨hxy.trans hyz, fun hx => ih (hchain hx) hsame, fun hx => (hother hx).trans hsame⟩

/-- Mappings that differ in the value of their first key. -/
theorem SameBut.of_first {key : Atom α} {chain : List (Atom α)} {v w : Value α} {others : List (Leaf α × Value α)}
    (h : SameBut chain (d.holding v) (d.holding w)) (hothers : ∀ e ∈ others, e.1.atom ≠ key) :
    SameBut (key :: chain) (d.holding (.map ((.new key, v) :: others)))
      (d.holding (.map ((.new key, w) :: others))) := by
  refine ⟨_, _, view_of_entries rfl, view_of_entries rfl, .cons ⟨rfl, fun _ => h, fun hne => absurd rfl hne⟩ ?_⟩
  rw [List.forall₂_map_left_iff, List.forall₂_map_right_iff, List.forall₂_same]
  exact fun e he => ⟨rfl, fun heq => absurd heq (hothers e he), fun _ => .refl _⟩

variable [NumberReading α]

theorem Same.entryOrNothing (h : d.Same e) (s : ScalarText) :
    (d.entryOrNothing (.text s)).Same (e.entryOrNothing (.text s)) := by
  have hview := h.view
  unfold Document.entryOrNothing entry?
  generalize d.view = v at hview ⊢
  generalize e.view = w at hview ⊢
  cases hview with
  | @map entries entries' hmap =>
    simp only
    have hget := Entries.get?_rel hmap (.text s)
    generalize Entries.get? (.text s) entries = x at hget ⊢
    generalize Entries.get? (.text s) entries' = y at hget ⊢
    cases hget with
    | some hxy => exact hxy
    | none => exact .refl nothing
  | _ => exact .refl nothing

end Document

end EquatorialMount

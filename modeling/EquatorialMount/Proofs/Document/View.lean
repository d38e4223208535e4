import EquatorialMount.Document.Basic
import EquatorialMount.Proofs.Document.Entries

/-!
# What documents show

A document that is a mapping shows its entries, and an entry of a text is found among them by that text, wherever the
mapping is kept: in the content itself or in the table of collections.
-/

namespace EquatorialMount

variable {α : Type}

/-! ### Texts as keys -/

section Keys

variable [NumberReading α]

@[simp] theorem Atom.beq_text {a : Atom α} {s : ScalarText} : (a == .text s) = true ↔ a = .text s := by
  cases a <;> simp [BEq.beq, Atom.same, Atom.asInt?]

@[simp] theorem Atom.text_beq {a : Atom α} {s : ScalarText} : (Atom.text s == a) = true ↔ a = .text s := by
  cases a <;> simp [BEq.beq, Atom.same, Atom.asInt?, eq_comm]

@[simp] theorem Leaf.beq_text {l : Leaf α} {s : ScalarText} : (l == .new (.text s)) = true ↔ l.atom = .text s := by
  show (l.atom == .text s && _) = true ↔ _
  rw [Bool.and_eq_true, Atom.beq_text]
  refine and_iff_left_of_imp fun h => ?_
  simp [h, Atom.isDefined]

@[simp] theorem Leaf.text_beq {l : Leaf α} {s : ScalarText} : (Leaf.new (.text s) == l) = true ↔ l.atom = .text s := by
  show (Atom.text s == l.atom && _) = true ↔ _
  rw [Bool.and_eq_true, Atom.text_beq]
  refine and_iff_left_of_imp fun h => ?_
  simp [Leaf.new, Atom.isDefined]

theorem Leaf.text_beq_eq_false {l : Leaf α} {s : ScalarText} :
    (Leaf.new (.text s) == l) = false ↔ l.atom ≠ .text s := by
  rw [Bool.eq_false_iff, Ne, Leaf.text_beq]

/-- A leaf that is a text counts as each leaf that is that text. -/
private theorem Leaf.beq_iff_of_text {l m : Leaf α} {s : ScalarText} (h : l.atom = .text s) :
    (l == m) = true ↔ m.atom = .text s := by
  show (l.atom == m.atom && _) = true ↔ _
  rw [Bool.and_eq_true, h, Atom.text_beq]
  refine and_iff_left_of_imp fun hm => ?_
  simp [Atom.isDefined]

end Keys

section DistinctKeys

open Entries

variable [NumberReading α] {τ : Type} {entries : List (Leaf α × τ)} {s : ScalarText}

/-- A text that is a key is no key further on. -/
theorem Entries.Distinct.ne_of_text {head : Leaf α × τ} (h : Distinct (head :: entries)) (hkey : head.1.atom = .text s)
    {e : Leaf α × τ} (he : e ∈ entries) : e.1.atom ≠ .text s := by
  intro hatom
  have hne := (List.pairwise_cons.1 h).1 e he
  rw [(Leaf.beq_iff_of_text hkey).2 hatom] at hne
  cases hne

/-- A text that is no key yet can be one in front. -/
theorem Entries.Distinct.cons_text (h : Distinct entries) (hne : ∀ e ∈ entries, e.1.atom ≠ .text s) (v : τ) :
    Distinct ((.new (.text s), v) :: entries) :=
  List.pairwise_cons.2 ⟨fun e he => Bool.eq_false_iff.2 fun heq => hne e he (Leaf.text_beq.1 heq), h⟩

theorem Entries.get?_of_mem (h : Distinct entries) {e : Leaf α × τ} (he : e ∈ entries) (hkey : e.1.atom = .text s) :
    get? (.new (.text s)) entries = some e.2 := by
  induction entries with
  | nil => cases he
  | cons head rest ih =>
    unfold get?
    rcases List.mem_cons.1 he with rfl | hmem
    · rw [if_pos (Leaf.beq_text.2 hkey)]
    · rw [if_neg fun heq => h.ne_of_text (Leaf.beq_text.1 heq) hmem hkey]
      exact ih h.tail hmem

theorem Entries.get?_erase_self (h : Distinct entries) :
    get? (.new (.text s)) (erase (.new (.text s)) entries) = none := by
  induction entries with
  | nil => rfl
  | cons head rest ih =>
    obtain ⟨k, v⟩ := head
    unfold erase
    split
    · rename_i hk
      refine get?_eq_none.2 fun e he => Bool.eq_false_iff.2 fun heq => ?_
      exact h.ne_of_text (Leaf.beq_text.1 hk) he (Leaf.beq_text.1 heq)
    · rename_i hk
      unfold get?
      rw [if_neg hk]
      exact ih h.tail

end DistinctKeys

/-! ### Numbers as keys -/

/-- Numbers each of which is equal to itself. -/
class NumberReading.Defined (α : Type) [NumberReading α] : Prop where
  equal_self (x : α) : NumberReading.equal x x = true

section DefinedKeys

variable [NumberReading α] [NumberReading.Defined α]

private theorem Atom.isDefined_eq (a : Atom α) : a.isDefined = true := by
  cases a with
  | number x => simp [Atom.isDefined, Atom.isUndefined, NumberReading.Defined.equal_self]
  | _ => rfl

/-- Where every number is defined, it makes no difference which nodes the keys were read from. -/
private theorem Leaf.beq_eq (l m : Leaf α) : (l == m) = (l.atom == m.atom) := by
  show (l.atom == m.atom && (_ || l.atom.isDefined)) = _
  rw [Atom.isDefined_eq, Bool.or_true, Bool.and_true]

theorem Entries.Distinct.of_atoms {τ υ : Type} {entries : List (Leaf α × τ)} {entries' : List (Leaf α × υ)}
    (h : Entries.Distinct entries) (hatoms : entries'.map (·.1.atom) = entries.map (·.1.atom)) :
    Entries.Distinct entries' := by
  have hiff {τ : Type} (entries : List (Leaf α × τ)) :
      Entries.Distinct entries ↔ (entries.map (·.1.atom)).Pairwise fun a b => (a == b) = false := by
    rw [List.pairwise_map, Entries.Distinct]
    simp only [Leaf.beq_eq]
  rw [hiff, hatoms]
  exact (hiff entries).1 h

end DefinedKeys

namespace Document

/-! ### Mappings -/

theorem entries?_holding_map (d : Document α) (entries : List (Leaf α × Value α)) :
    (d.holding (.map entries)).entries? = some entries := rfl

theorem view_of_entries {d : Document α} {entries : List (Leaf α × Value α)} (h : d.entries? = some entries) :
    d.view = .map (entries.map fun (key, v) => (key.atom, d.holding v)) := by
  unfold view
  rw [h]

theorem opened_of_entries {d : Document α} {v : Value α} {entries : List (Leaf α × Value α)}
    (h : (d.holding v).entries? = some entries) : d.opened v = .map entries := by
  rw [opened, h]
  rfl

/-- A document that shows a mapping is one. -/
theorem entries_of_view {d : Document α} {shown : List (Atom α × Document α)} (h : d.view = .map shown) :
    ∃ entries, d.entries? = some entries ∧ shown = entries.map fun (key, v) => (key.atom, d.holding v) := by
  cases hentries : d.entries? with
  | some entries =>
    rw [view_of_entries hentries] at h
    cases h
    exact ⟨entries, rfl, rfl⟩
  | none =>
    unfold view at h
    rw [hentries] at h
    obtain ⟨content, collections⟩ := d
    cases content with
    | map entries => cases hentries
    | leaf held =>
      cases held with
      | leaf l => cases h
      | collection n =>
        simp only at h
        split at h <;> cases h

variable [NumberReading α]

private theorem get?_shown (d : Document α) (s : ScalarText) (entries : List (Leaf α × Value α)) :
    Entries.get? (.text s) (entries.map fun (key, v) => (key.atom, d.holding v)) =
      (Entries.get? (.new (.text s)) entries).map d.holding := by
  induction entries with
  | nil => rfl
  | cons head rest ih =>
    obtain ⟨k, v⟩ := head
    by_cases hk : k.atom = .text s
    · simp [Entries.get?, hk]
    · have hatom : (k.atom == .text s) = false := Bool.eq_false_iff.2 (mt Atom.beq_text.1 hk)
      have hleaf : (k == .new (.text s)) = false := Bool.eq_false_iff.2 (mt Leaf.beq_text.1 hk)
      simpa [Entries.get?, hatom, hleaf] using ih

theorem entry?_of_entries {d : Document α} {entries : List (Leaf α × Value α)} (h : d.entries? = some entries)
    (s : ScalarText) : d.entry? (.text s) = (Entries.get? (.new (.text s)) entries).map d.holding := by
  unfold entry?
  rw [view_of_entries h]
  exact get?_shown d s entries

theorem entryOrNothing_put (d : Document α) (s : ScalarText) (v : Value α) (entries : List (Leaf α × Value α)) :
    (d.holding (.map (Entries.put (.new (.text s)) v entries))).entryOrNothing (.text s) = d.holding v := by
  have hget : Entries.get? (.new (.text s)) (Entries.put (.new (.text s)) v entries) = some v :=
    Entries.get?_put_self (Leaf.text_beq.2 rfl)
  rw [entryOrNothing, entry?_of_entries (entries?_holding_map d _), hget]
  rfl

/-! ### Erasing -/

omit [NumberReading α] in
theorem entries?_collection {collections : Array (Collection α)} {n : Nat} {entries : List (Leaf α × Value α)} :
    (⟨.leaf (.collection n), collections⟩ : Document α).entries? = some entries ↔
      ∃ own, collections[n]? = some (.map own) ∧ own.map (fun (key, held) => (key, .leaf held)) = entries := by
  unfold entries?
  cases hn : collections[n]? with
  | none => simp [hn]
  | some c => cases c <;> simp [hn]

theorem entries?_erase {d : Document α} {entries : List (Leaf α × Value α)} (h : d.entries? = some entries)
    (key : Atom α) : (d.erase key).entries? = some (Entries.erase (.new key) entries) := by
  obtain ⟨content, collections⟩ := d
  cases content with
  | map own =>
    cases h
    rfl
  | leaf held =>
    cases held with
    | leaf l => cases h
    | collection n =>
      obtain ⟨own, hn, rfl⟩ := entries?_collection.1 h
      refine entries?_collection.2 ⟨Entries.erase (.new key) own, ?_, (Entries.erase_map _ own).symm⟩
      simp [Array.getElem?_modify, hn]

/-- A mapping stays one, whichever entry it or another value loses. -/
theorem isSome_entries?_erase {d : Document α} {v : Value α} (h : (d.holding v).entries?.isSome) (key : Atom α) :
    ((d.erase key).holding v).entries?.isSome := by
  obtain ⟨content, collections⟩ := d
  cases content with
  | map own => exact h
  | leaf held =>
    cases held with
    | leaf l => exact h
    | collection n =>
      cases v with
      | map own => rfl
      | leaf held =>
        cases held with
        | leaf l => cases h
        | collection m =>
          obtain ⟨entries, hentries⟩ := Option.isSome_iff_exists.1 h
          obtain ⟨own, hm, -⟩ := entries?_collection.1 hentries
          change collections[m]? = _ at hm
          rw [Option.isSome_iff_exists]
          by_cases hnm : n = m
          · refine ⟨_, entries?_collection.2 ⟨Entries.erase (.new key) own, ?_, rfl⟩⟩
            show (collections.modify n _)[m]? = _
            rw [Array.getElem?_modify, if_pos hnm, hm]
            rfl
          · refine ⟨_, entries?_collection.2 ⟨own, ?_, rfl⟩⟩
            show (collections.modify n _)[m]? = _
            rw [Array.getElem?_modify, if_neg hnm, hm]

end Document

end EquatorialMount

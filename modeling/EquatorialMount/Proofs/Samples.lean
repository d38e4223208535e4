import EquatorialMount.Document.Content
import EquatorialMount.Program
import EquatorialMount.Proofs.Exact.Reading

/-!
# What a file of samples holds

Whether a document has samples is not a matter of kinds but of what its values consist of: three items that consist of
two numbers each, so that a text of two digits and a mapping with two numbers for keys are samples as well.  A document
either has three samples or has a first fault, and this is the one that is found (`SamplesFile.load_of_document`).
-/

namespace EquatorialMount

variable {α : Type}

/-! ### Items of a value -/

namespace Document

/-- A value consists of these items, in this order.  Bytes and sets consist of something too, a set in the order in
which it is gone through. -/
inductive Items (v : Document α) : List (Document α) → Prop
  | list {items : List (Document α)} (h : v.view = .list items) : Items v items
  | text {s : ScalarText} (h : v.view = .atom (.text s)) : Items v (s.characters.map fun c => ofAtom (.text c))
  | map {entries : List (Atom α × Document α)} (h : v.view = .map entries) : Items v (entries.map fun e => ofAtom e.1)
  | bytes {content : List UInt8} (h : v.view = .atom (.bytes content)) :
      Items v (content.map fun b => ofAtom (.int b.toNat))
  | set {members : List (Atom α)} (h : v.view = .set members) : Items v (members.map ofAtom)

variable {v : Document α} {items : List (Document α)}

private theorem members?_eq_some : v.members? = some items ↔ v.Items items := by
  constructor
  · intro h
    unfold members? at h
    split at h
    next a hview =>
      cases a with
      | text s =>
        cases h
        simp only [List.map_map]
        exact .text hview
      | bytes content =>
        cases h
        simp only [List.map_map]
        exact .bytes hview
      | _ => cases h
    next own hview =>
      cases h
      exact .list hview
    next entries hview =>
      cases h
      exact .map hview
    next members hview =>
      cases h
      exact .set hview
  · rintro (h | h | h | h | h)
    · rw [members?, h]
    · rw [members?, h]
      exact congrArg some List.map_map
    · rw [members?, h]
    · rw [members?, h]
      exact congrArg some List.map_map
    · rw [members?, h]

private theorem members?_eq_none : v.members? = none ↔ ∀ items, ¬v.Items items := by
  simp only [Option.eq_none_iff_forall_ne_some, Ne, members?_eq_some]

end Document

namespace SamplesFile

variable [NumberReading α]

/-! ### One sample -/

/-- A value is a sample of these two angles. -/
def IsPair (v : Document α) (p : AnglePair α) : Prop :=
  ∃ a b, v.Items [a, b] ∧ a.view.toNumber = .ok p.primary ∧ b.view.toNumber = .ok p.secondary

/-- Why a value is no sample, with the class of the error and the error itself.  What the value consists of comes before
the numbers, and the hour angle before the declination. -/
inductive PairFault (v : Document α) : ErrorClass → SamplesError → Prop
  | noItems (h : ∀ items, ¬v.Items items) : PairFault v .kind (.noPair v.view.kindName)
  | short {items : List (Document α)} (h : v.Items items) (hlen : items.length < 2) :
      PairFault v .value (.pairTooShort items.length)
  | long {items : List (Document α)} (h : v.Items items) (hlen : 2 < items.length) :
      PairFault v .value (.pairTooLong items.length)
  | primary {a b : Document α} {e : ConversionError} (h : v.Items [a, b]) (ha : a.view.toNumber = .error e) :
      PairFault v e.errorClass (.conversion e)
  | secondary {a b : Document α} {x : α} {e : ConversionError} (h : v.Items [a, b]) (ha : a.view.toNumber = .ok x)
      (hb : b.view.toNumber = .error e) : PairFault v e.errorClass (.conversion e)

section Pairs

variable {v a b : Document α} {p : AnglePair α} {items : List (Document α)} {c : ErrorClass} {e : SamplesError}

private theorem pairOf_of_items (h : v.Items [a, b]) :
    pairOf v = (do
      let primary ← a.view.toNumber.mapError .conversion
      let secondary ← b.view.toNumber.mapError .conversion
      return ⟨primary, secondary⟩) := by
  rw [pairOf, Document.members?_eq_some.2 h]

private theorem pairOf_of_length (h : v.Items items) (hlen : items.length ≠ 2) :
    pairOf v = .error (if items.length < 2 then .pairTooShort items.length else .pairTooLong items.length) := by
  unfold pairOf
  rw [Document.members?_eq_some.2 h]
  split
  next hnone => cases hnone
  next hsome =>
    cases hsome
    exact absurd rfl hlen
  next hsome =>
    cases hsome
    rfl

private theorem pairOf_of_isPair (h : IsPair v p) : pairOf v = .ok p := by
  obtain ⟨a, b, hitems, ha, hb⟩ := h
  rw [pairOf_of_items hitems, ha, hb]
  rfl

private theorem pairOf_of_pairFault (h : PairFault v c e) : pairOf v = .error e := by
  cases h with
  | noItems h => rw [pairOf, Document.members?_eq_none.2 h]
  | short h hlen => rw [pairOf_of_length h (by omega), if_pos hlen]
  | long h hlen => rw [pairOf_of_length h (by omega), if_neg (by omega)]
  | primary h ha =>
    rw [pairOf_of_items h, ha]
    rfl
  | secondary h ha hb =>
    rw [pairOf_of_items h, ha, hb]
    rfl

/-- A value is a sample or has a fault. -/
private theorem isPair_or_pairFault (v : Document α) : (∃ p, IsPair v p) ∨ ∃ c e, PairFault v c e := by
  cases hmembers : v.members? with
  | none => exact .inr ⟨_, _, .noItems (Document.members?_eq_none.1 hmembers)⟩
  | some items =>
    have hitems := Document.members?_eq_some.1 hmembers
    rcases Nat.lt_trichotomy items.length 2 with hlen | hlen | hlen
    · exact .inr ⟨_, _, .short hitems hlen⟩
    · obtain ⟨a, b, rfl⟩ := List.length_eq_two.1 hlen
      cases ha : a.view.toNumber with
      | error e => exact .inr ⟨_, _, .primary hitems ha⟩
      | ok x =>
        cases hb : b.view.toNumber with
        | error e => exact .inr ⟨_, _, .secondary hitems ha hb⟩
        | ok y => exact .inl ⟨⟨x, y⟩, a, b, hitems, ha, hb⟩
    · exact .inr ⟨_, _, .long hitems hlen⟩

private theorem PairFault.errorClass?_eq (h : PairFault v c e) : e.errorClass? = some c := by
  cases h <;> rfl

end Pairs

/-! ### Three samples -/

section Files

variable [Scalar α]

/-- The items a document has for samples.  A document that counts as empty is an empty mapping, and a value that does,
or none, is an empty list. -/
inductive HasSamples (d : Document α) : List (Document α) → Prop
  | emptyDocument (h : d.view.isEmpty = true) : HasSamples d []
  | emptySamples {entries : List (Atom α × Document α)} (h : d.view = .map entries)
      (hempty : (d.entryOrNothing (.text "samples")).view.isEmpty = true) : HasSamples d []
  | samples {entries : List (Atom α × Document α)} {items : List (Document α)} (h : d.view = .map entries)
      (hempty : (d.entryOrNothing (.text "samples")).view.isEmpty = false)
      (hitems : (d.entryOrNothing (.text "samples")).Items items) : HasSamples d items

/-- A document holds these samples and this latitude, which is nothing if it has none. -/
structure Holds (d : Document α) (file : SamplesFile α) : Prop where
  samples : ∃ v₁ v₂ v₃, HasSamples d [v₁, v₂, v₃] ∧
    IsPair v₁ file.samples.first ∧ IsPair v₂ file.samples.second ∧ IsPair v₃ file.samples.third
  latitude : file.latitude = d.entryOrNothing (.text "latitude")

/-- The first fault of a document, with the class of the error and the error itself: the kind of the document, what its
samples consist of, how many they are, and then one sample after the other. -/
inductive Fault (path : Path) (d : Document α) : ErrorClass → SamplesError → Prop
  | notAMapping (hempty : d.view.isEmpty = false) (h : ∀ entries, d.view ≠ .map entries) :
      Fault path d .value (.notAMapping path d.view.kindName)
  | noItems {entries : List (Atom α × Document α)} (h : d.view = .map entries)
      (hempty : (d.entryOrNothing (.text "samples")).view.isEmpty = false)
      (hitems : ∀ items, ¬(d.entryOrNothing (.text "samples")).Items items) :
      Fault path d .kind (.noMembers (d.entryOrNothing (.text "samples")).view.kindName)
  | count {items : List (Document α)} (h : HasSamples d items) (hlen : items.length ≠ 3) :
      Fault path d .value (.count path items.length)
  | sample (before after : List (Document α)) {v : Document α} {c : ErrorClass} {e : SamplesError}
      (h : HasSamples d (before ++ v :: after)) (hlen : (before ++ v :: after).length = 3)
      (hbefore : ∀ w ∈ before, ∃ p, IsPair w p) (hv : PairFault v c e) : Fault path d c e

section Documents

variable {d v₁ v₂ v₃ : Document α} {path : Path} {items : List (Document α)} {file : SamplesFile α} {c : ErrorClass}
  {e : SamplesError}

private theorem ofDocument_of_map {entries : List (Atom α × Document α)} (h : d.view = .map entries)
    (hempty : d.view.isEmpty = false) :
    ofDocument path d = (do
      let samples ← samplesOf path (d.entryOrNothing (.text "samples"))
      return ⟨samples, d.entryOrNothing (.text "latitude")⟩) := by
  unfold ofDocument
  simp only [hempty, Bool.false_eq_true, if_false]
  rw [h]

/-- A mapping that has an entry does not count as empty. -/
private theorem isEmpty_eq_false_of_entry {entries : List (Atom α × Document α)} (h : d.view = .map entries)
    {key : Atom α} (hentry : (d.entryOrNothing key).view.isEmpty = false) : d.view.isEmpty = false := by
  cases entries with
  | nil =>
    rw [Document.entryOrNothing, Document.entry?, h] at hentry
    cases hentry
  | cons entry rest =>
    rw [h]
    rfl

private theorem ofDocument_of_isEmpty (h : d.view.isEmpty = true) : ofDocument path d = .error (.count path 0) := by
  unfold ofDocument
  rw [if_pos h]
  rfl

/-- Three items are read as one sample after the other. -/
private theorem ofDocument_of_three (h : HasSamples d [v₁, v₂, v₃]) :
    ofDocument path d = (do
      let first ← pairOf v₁
      let second ← pairOf v₂
      let third ← pairOf v₃
      return ⟨⟨first, second, third⟩, d.entryOrNothing (.text "latitude")⟩) := by
  cases h with
  | samples hmap hempty hitems =>
    rw [ofDocument_of_map hmap (isEmpty_eq_false_of_entry hmap hempty), samplesOf, hempty]
    simp only [Bool.false_eq_true, if_false, Document.members?_eq_some.2 hitems, bind_assoc, pure_bind]

private theorem samplesOf_of_count {v : Document α} (h : (if v.view.isEmpty then some [] else v.members?) = some items)
    (hlen : items.length ≠ 3) : samplesOf path v = .error (.count path items.length) := by
  unfold samplesOf
  rw [h]
  split
  next hnone => cases hnone
  next hsome =>
    cases hsome
    exact absurd rfl hlen
  next hsome =>
    cases hsome
    rfl

private theorem ofDocument_of_count (h : HasSamples d items) (hlen : items.length ≠ 3) :
    ofDocument path d = .error (.count path items.length) := by
  cases h with
  | emptyDocument hempty => exact ofDocument_of_isEmpty hempty
  | emptySamples hmap hempty =>
    cases hd : d.view.isEmpty with
    | true => exact ofDocument_of_isEmpty hd
    | false =>
      rw [ofDocument_of_map hmap hd, samplesOf_of_count (if_pos hempty) hlen]
      rfl
  | samples hmap hempty hitems =>
    have hcount : (if (d.entryOrNothing (.text "samples")).view.isEmpty then some []
        else (d.entryOrNothing (.text "samples")).members?) = some items := by
      rw [hempty]
      exact Document.members?_eq_some.2 hitems
    rw [ofDocument_of_map hmap (isEmpty_eq_false_of_entry hmap hempty), samplesOf_of_count hcount hlen]
    rfl

private theorem ofDocument_of_notAMapping (hempty : d.view.isEmpty = false) (h : ∀ entries, d.view ≠ .map entries) :
    ofDocument path d = .error (.notAMapping path d.view.kindName) := by
  unfold ofDocument
  simp only [hempty, Bool.false_eq_true, if_false]
  rfl

private theorem ofDocument_of_noItems {entries : List (Atom α × Document α)} (h : d.view = .map entries)
    (hempty : (d.entryOrNothing (.text "samples")).view.isEmpty = false)
    (hitems : ∀ items, ¬(d.entryOrNothing (.text "samples")).Items items) :
    ofDocument path d = .error (.noMembers (d.entryOrNothing (.text "samples")).view.kindName) := by
  rw [ofDocument_of_map h (isEmpty_eq_false_of_entry h hempty), samplesOf, hempty]
  simp only [Bool.false_eq_true, if_false, Document.members?_eq_none.2 hitems]
  rfl

private theorem ofDocument_of_holds (h : Holds d file) : ofDocument path d = .ok file := by
  obtain ⟨⟨v₁, v₂, v₃, hsamples, h₁, h₂, h₃⟩, hlatitude⟩ := h
  rw [ofDocument_of_three hsamples, pairOf_of_isPair h₁, pairOf_of_isPair h₂, pairOf_of_isPair h₃, ← hlatitude]
  rfl

private theorem ofDocument_of_fault (h : Fault path d c e) : ofDocument path d = .error e := by
  cases h with
  | notAMapping hempty h => exact ofDocument_of_notAMapping hempty h
  | noItems h hempty hitems => exact ofDocument_of_noItems h hempty hitems
  | count h hlen => exact ofDocument_of_count h hlen
  | sample before after h hlen hbefore hv =>
    -- The fault is in the first, the second or the third sample.
    have hcount : after.length + before.length = 2 := by
      rw [List.length_append, List.length_cons] at hlen
      omega
    rcases before with _ | ⟨v₁, _ | ⟨v₂, _ | ⟨v₃, rest⟩⟩⟩
    · obtain ⟨v₂, v₃, rfl⟩ := List.length_eq_two.1 (by simpa using hcount : after.length = 2)
      rw [ofDocument_of_three h, pairOf_of_pairFault hv]
      rfl
    · obtain ⟨v₃, rfl⟩ := List.length_eq_one_iff.1 (by simpa using hcount : after.length = 1)
      obtain ⟨p₁, h₁⟩ := hbefore v₁ (by simp)
      rw [ofDocument_of_three h, pairOf_of_isPair h₁, pairOf_of_pairFault hv]
      rfl
    · obtain rfl := List.eq_nil_of_length_eq_zero (by simpa using hcount : after.length = 0)
      obtain ⟨p₁, h₁⟩ := hbefore v₁ (by simp)
      obtain ⟨p₂, h₂⟩ := hbefore v₂ (by simp)
      rw [ofDocument_of_three h, pairOf_of_isPair h₁, pairOf_of_isPair h₂, pairOf_of_pairFault hv]
      rfl
    · simp only [List.length_cons] at hcount
      omega

/-- A document has items for samples or a fault that comes before them. -/
private theorem hasSamples_or_fault (path : Path) (d : Document α) :
    (∃ items, HasSamples d items) ∨ ∃ c e, Fault path d c e := by
  cases hd : d.view.isEmpty with
  | true => exact .inl ⟨_, .emptyDocument hd⟩
  | false =>
    by_cases hmap : ∃ entries, d.view = .map entries
    · obtain ⟨entries, hmap⟩ := hmap
      cases hempty : (d.entryOrNothing (.text "samples")).view.isEmpty with
      | true => exact .inl ⟨_, .emptySamples hmap hempty⟩
      | false =>
        by_cases hitems : ∃ items, (d.entryOrNothing (.text "samples")).Items items
        · exact .inl (hitems.imp fun items => .samples hmap hempty)
        · exact .inr ⟨_, _, .noItems hmap hempty (not_exists.1 hitems)⟩
    · exact .inr ⟨_, _, .notAMapping hd (not_exists.1 hmap)⟩

/-- A document holds three samples or has a fault. -/
private theorem holds_or_fault (path : Path) (d : Document α) : (∃ file, Holds d file) ∨ ∃ c e, Fault path d c e := by
  rcases hasSamples_or_fault path d with ⟨items, h⟩ | hfault
  · by_cases hlen : items.length = 3
    · obtain ⟨v₁, v₂, v₃, rfl⟩ := List.length_eq_three.1 hlen
      rcases isPair_or_pairFault v₁ with ⟨p₁, h₁⟩ | ⟨c, e, he⟩
      · rcases isPair_or_pairFault v₂ with ⟨p₂, h₂⟩ | ⟨c, e, he⟩
        · rcases isPair_or_pairFault v₃ with ⟨p₃, h₃⟩ | ⟨c, e, he⟩
          · exact .inl ⟨⟨⟨p₁, p₂, p₃⟩, _⟩, ⟨v₁, v₂, v₃, h, h₁, h₂, h₃⟩, rfl⟩
          · refine .inr ⟨c, e, .sample [v₁, v₂] [] h hlen ?_ he⟩
            simpa using ⟨⟨p₁, h₁⟩, p₂, h₂⟩
        · refine .inr ⟨c, e, .sample [v₁] [v₃] h hlen ?_ he⟩
          simpa using ⟨p₁, h₁⟩
      · exact .inr ⟨c, e, .sample [] [v₂, v₃] h hlen (by simp) he⟩
    · exact .inr ⟨_, _, .count h hlen⟩
  · exact .inr hfault

private theorem Fault.errorClass?_eq (h : Fault path d c e) : e.errorClass? = some c := by
  cases h with
  | sample _ _ _ _ _ hv => exact hv.errorClass?_eq
  | _ => rfl

/-- A run handles every fault of a document but a number that is too large. -/
private theorem Fault.isHandled_iff (h : Fault path d c e) : e.isHandled = true ↔ c ≠ .size := by
  have hclass := h.errorClass?_eq
  cases e with
  | file e => cases hclass
  | document e => cases hclass
  | conversion e =>
    cases hclass
    cases e <;> simp [SamplesError.isHandled, ConversionError.errorClass]
  | _ =>
    cases hclass
    simp [SamplesError.isHandled]

end Documents

/-! ### Files -/

section Loading

variable {format : DocumentFormat α} {disk : Disk} {path : Path} {text : String} {d : Document α}

private theorem load_of_file_error {fault : FileError} (htext : disk.read path = .error fault) :
    load format disk path = .error (.file fault) := by
  unfold load
  rw [htext]
  rfl

private theorem load_of_text (htext : disk.read path = .ok text) :
    load format disk path = (format.read text).mapError .document >>= ofDocument path := by
  unfold load
  rw [htext]
  rfl

private theorem load_of_read (htext : disk.read path = .ok text) (hread : format.read text = .ok d) :
    load format disk path = ofDocument path d := by
  rw [load_of_text htext, hread]
  rfl

private theorem load_of_read_error {fault : DocumentError} (htext : disk.read path = .ok text)
    (hread : format.read text = .error fault) : load format disk path = .error (.document fault) := by
  rw [load_of_text htext, hread]
  rfl

private theorem ofDocument_error_iff {e : SamplesError} : ofDocument path d = .error e ↔ ∃ c, Fault path d c e := by
  refine ⟨fun h => ?_, fun ⟨c, he⟩ => ofDocument_of_fault he⟩
  rcases holds_or_fault path d with ⟨file, hfile⟩ | ⟨c, e', he⟩
  · cases (ofDocument_of_holds hfile).symm.trans h
  · cases (ofDocument_of_fault he).symm.trans h
    exact ⟨c, he⟩

/-- What becomes of a file from whatever document its text is read as, and whichever texts and integers stand for
numbers.  It is accepted exactly if the document holds three samples, and then with these and with the latitude as it
is.  Otherwise the document has a first fault, and the error is the one of this fault. -/
theorem load_of_document (htext : disk.read path = .ok text) (hread : format.read text = .ok d) :
    (∀ file, load format disk path = .ok file ↔ Holds d file) ∧
    (∀ e, load format disk path = .error e ↔ ∃ c, Fault path d c e) ∧
    ((∃ file, Holds d file) ∨ ∃ c e, Fault path d c e) ∧
    ∀ c e, Fault path d c e → e.errorClass? = some c := by
  rw [load_of_read htext hread]
  refine ⟨fun file => ⟨fun h => ?_, ofDocument_of_holds⟩, fun e => ofDocument_error_iff, holds_or_fault path d,
    fun c e => Fault.errorClass?_eq⟩
  rcases holds_or_fault path d with ⟨file', hfile⟩ | ⟨c, e, he⟩
  · cases (ofDocument_of_holds hfile).symm.trans h
    exact hfile
  · cases (ofDocument_of_fault he).symm.trans h

/-! ### Faults that are not handled -/

/-- The faults of a file of samples that a run does not handle: a number that is too large, an escape that is, and a few
scalars that do not go with their tag. -/
inductive Unloadable (format : DocumentFormat α) (disk : Disk) (path : Path) : SamplesError → Prop
  | size {text : String} {d : Document α} {e : SamplesError} (htext : disk.read path = .ok text)
      (hread : format.read text = .ok d) (h : Fault path d .size e) : Unloadable format disk path e
  | code {text : String} {code : Nat} (htext : disk.read path = .ok text)
      (hread : format.read text = .error (.codePoint code)) (h : 0x7fffffff < code) :
      Unloadable format disk path (.document (.codePoint code))
  | scalar {text : String} {e : ScalarError} (htext : disk.read path = .ok text)
      (hread : format.read text = .error (.scalar e))
      (h : (∃ quoted, e = .truth quoted) ∨ e ∈ [.tooLarge, .nothing, .notADate, .endless]) :
      Unloadable format disk path (.document (.scalar e))

private theorem scalar_isHandled_eq_false_iff {e : ScalarError} :
    e.isHandled = false ↔ (∃ quoted, e = .truth quoted) ∨ e ∈ [.tooLarge, .nothing, .notADate, .endless] := by
  cases e <;> simp [ScalarError.isHandled]

/-- Loading finds a fault that is not handled exactly if the file has one. -/
theorem load_unhandled_iff {e : SamplesError} :
    load format disk path = .error e ∧ e.isHandled = false ↔ Unloadable format disk path e := by
  constructor
  · rintro ⟨hload, he⟩
    cases htext : disk.read path with
    | error fault =>
      cases (load_of_file_error htext).symm.trans hload
      cases he
    | ok text =>
      cases hread : format.read text with
      | ok d =>
        obtain ⟨c, hfault⟩ := ofDocument_error_iff.1 ((load_of_read htext hread).symm.trans hload)
        obtain rfl : c = .size := by
          by_contra hc
          exact absurd (hfault.isHandled_iff.2 hc) (Bool.eq_false_iff.1 he)
        exact .size htext hread hfault
      | error fault =>
        cases (load_of_read_error htext hread).symm.trans hload
        cases fault with
        | malformed problem => cases he
        | codePoint code => exact .code htext hread (Nat.lt_of_not_le (of_decide_eq_false he))
        | scalar e => exact .scalar htext hread (scalar_isHandled_eq_false_iff.1 he)
  · intro h
    cases h with
    | size htext hread hfault =>
      refine ⟨(load_of_read htext hread).trans (ofDocument_of_fault hfault), Bool.eq_false_iff.2 fun he => ?_⟩
      exact hfault.isHandled_iff.1 he rfl
    | code htext hread hcode =>
      exact ⟨load_of_read_error htext hread, decide_eq_false (Nat.not_le_of_lt hcode)⟩
    | scalar htext hread hscalar =>
      exact ⟨load_of_read_error htext hread, scalar_isHandled_eq_false_iff.2 hscalar⟩

end Loading

end Files

/-! ### Samples that are no lists -/

/-- A text of two digits, a mapping with two numbers for keys and a list with a text in it. -/
def digitsText : String := "samples:\n- '12'\n- \x7b3: x, 4: y\x7d\n- [5, '6']\nlatitude: north\n"

def digitsDisk : Disk := ⟨[(["samples.yaml"], .file (some digitsText))]⟩

/-- Reads documents with exact numbers, and writes none. -/
def readingExactly : DocumentFormat ℚ := ⟨Document.ofText .asWritten, fun _ => .error .tooManyDigits⟩

/-- Whatever consists of two numbers is a sample. -/
theorem load_of_document_digits : ∃ text d file, digitsDisk.read ⟨"samples.yaml"⟩ = .ok text ∧
    readingExactly.read text = .ok d ∧ load readingExactly digitsDisk ⟨"samples.yaml"⟩ = .ok file ∧
    file.samples = ⟨⟨1, 2⟩, ⟨3, 4⟩, ⟨5, 6⟩⟩ ∧ Holds d file ∧ ∀ c e, ¬Fault ⟨"samples.yaml"⟩ d c e := by
  have hcheck : (match digitsDisk.read ⟨"samples.yaml"⟩ with
      | .error _ => false
      | .ok text =>
        match readingExactly.read text with
        | .error _ => false
        | .ok _ =>
          match load readingExactly digitsDisk ⟨"samples.yaml"⟩ with
          | .error _ => false
          | .ok file => decide (file.samples = ⟨⟨1, 2⟩, ⟨3, 4⟩, ⟨5, 6⟩⟩)) = true := by decide +kernel
  cases htext : digitsDisk.read ⟨"samples.yaml"⟩ with
  | error e => simp only [htext, Bool.false_eq_true] at hcheck
  | ok text =>
    cases hread : readingExactly.read text with
    | error e => simp only [htext, hread, Bool.false_eq_true] at hcheck
    | ok d =>
      cases hload : load readingExactly digitsDisk ⟨"samples.yaml"⟩ with
      | error e => simp only [htext, hread, hload, Bool.false_eq_true] at hcheck
      | ok file =>
        simp only [htext, hread, hload, decide_eq_true_eq] at hcheck
        obtain ⟨hholds, hfault, -⟩ := load_of_document htext hread
        refine ⟨text, d, file, rfl, hread, rfl, hcheck, (hholds file).1 hload, fun c e he => ?_⟩
        cases hload.symm.trans ((hfault e).2 ⟨c, he⟩)

end SamplesFile

end EquatorialMount

import EquatorialMount.Options
import EquatorialMount.Proofs.Disk
import EquatorialMount.Proofs.Document.View

/-!
# The stored offset

The options of a store are a mapping of its own, whatever was in the file, so an offset that is put there is the one
that is read from there (`offset_withOffset`); only a zero is read without its sign.  Setting an offset changes the
options at hand in any case, however often and for whatever reason saving them fails, and if it succeeds the file has
their text (`setOffsetBy_cases`).
-/

namespace EquatorialMount

/-- The document is a mapping of its own, not a collection of its table. -/
def Document.IsOwnMapping {α : Type} (d : Document α) : Prop := ∃ entries, d.content = .map entries

/-! ### Loading -/

namespace Options

variable {α : Type} [Scalar α] [NumberReading α]

private theorem isOwnMapping_of_ofDocument {path : Path} {d config : Document α} (h : ofDocument path d = .ok config) :
    config.IsOwnMapping := by
  unfold ofDocument at h
  obtain ⟨checked, -, h⟩ := exists_of_bind_eq_ok h
  cases h
  exact ⟨_, rfl⟩

variable {format : DocumentFormat α} {disk : Disk} {path : Path}

theorem load_of_text {text : String} (hexists : disk.doesExist path = .ok true) (htext : disk.read path = .ok text) :
    load format disk path =
      match format.read text with
      | .ok d => ofDocument path d
      | .error (.malformed problem) => .error (.malformed path problem)
      | .error e => .error (.unreadable e) := by
  unfold load
  rw [hexists, htext]
  rfl

theorem load_of_read {text : String} {d : Document α} (hexists : disk.doesExist path = .ok true)
    (htext : disk.read path = .ok text) (hread : format.read text = .ok d) :
    load format disk path = ofDocument path d := by
  rw [load_of_text hexists htext, hread]

/-- Options are loaded if there is no file, or from a document that can be read from it. -/
theorem load_cases {config : Document α} (h : load format disk path = .ok config) :
    disk.doesExist path = .ok false ∧ config = defaults ∨
      ∃ text d, disk.doesExist path = .ok true ∧ disk.read path = .ok text ∧ format.read text = .ok d ∧
        ofDocument path d = .ok config := by
  cases hexists : disk.doesExist path with
  | error e =>
    unfold load at h
    rw [hexists] at h
    cases h
  | ok there =>
    cases there with
    | false =>
      unfold load at h
      rw [hexists] at h
      cases h
      exact .inl ⟨rfl, rfl⟩
    | true =>
      cases htext : disk.read path with
      | error e =>
        unfold load at h
        rw [hexists, htext] at h
        cases h
      | ok text =>
        rw [load_of_text hexists htext] at h
        cases hread : format.read text with
        | error e =>
          rw [hread] at h
          cases e <;> cases h
        | ok d =>
          rw [hread] at h
          exact .inr ⟨text, d, rfl, rfl, hread, h⟩

end Options

namespace OptionStore

open Options

variable {α : Type}

theorem isOwnMapping_of_load [Scalar α] [NumberReading α] {format : DocumentFormat α} {disk : Disk} {path : Option Path}
    {config : Document α} (h : load format disk path = .ok config) : config.IsOwnMapping := by
  cases path with
  | none => cases h; exact ⟨_, rfl⟩
  | some p =>
    obtain ⟨-, rfl⟩ | ⟨text, d, -, -, -, hd⟩ := load_cases h
    · exact ⟨_, rfl⟩
    · exact isOwnMapping_of_ofDocument hd

theorem load_of_ofPath [Scalar α] [NumberReading α] {format : DocumentFormat α} {disk : Disk} {path : Option Path}
    {s : OptionStore α} (h : ofPath format disk path = .ok s) :
    s.path = path ∧ load format disk path = .ok s.config := by
  unfold ofPath at h
  obtain ⟨config, hload, h⟩ := exists_of_bind_eq_ok h
  cases h
  exact ⟨rfl, hload⟩

/-! ### Saving -/

theorem save_of_path {s : OptionStore α} {p : Path} (h : s.path = some p) (format : DocumentFormat α) (disk : Disk) :
    s.save format disk =
      ((disk.save p ((format.write s.config).toOption.getD "")).1.mapError .file *>
          ((format.write s.config).mapError .document).map fun _ => (),
        (disk.save p ((format.write s.config).toOption.getD "")).2) := by
  unfold save
  rw [h]

/-- A save that succeeds has a text for the options and puts it into the file. -/
private theorem text_of_save {format : DocumentFormat α} {s : OptionStore α} {p : Path} {disk saved : Disk}
    (hp : s.path = some p) (h : s.save format disk = (.ok (), saved)) :
    ∃ text, format.write s.config = .ok text ∧ disk.save p text = (.ok (), saved) := by
  rw [save_of_path hp] at h
  obtain ⟨hanswer, hsaved⟩ := Prod.mk.inj h
  cases hwrite : format.write s.config with
  | error e =>
    rw [hwrite] at hanswer
    cases hsave : (disk.save p "").1 <;> simp [Except.toOption, hsave] at hanswer <;> cases hanswer
  | ok text =>
    rw [hwrite] at hanswer hsaved
    refine ⟨text, rfl, Prod.ext ?_ hsaved⟩
    cases hsave : (disk.save p text).1 with
    | error e =>
      simp only [Except.toOption, Option.getD_some, hsave] at hanswer
      cases hanswer
    | ok _ => rfl

/-- The file of a store, if it has one, has the text of the options at hand. -/
def Filed (format : DocumentFormat α) (kept : OptionStore α × Disk) : Prop :=
  ∀ p, kept.1.path = some p → ∃ text, format.write kept.1.config = .ok text ∧ kept.2.rawText? p = some text

/-! ### Setting an offset -/

variable [NumberReading α]

private theorem withOffset_eq {config : Document α} (h : config.IsOwnMapping) (x : α) :
    ∃ old entries, withOffset x config = config.holding (.map (Entries.put (.new rotatorKey)
      (.map (Entries.put (.new offsetKey) (Document.atom (.number x)) old)) entries)) := by
  obtain ⟨entries, h⟩ := h
  unfold withOffset
  rw [h]
  exact ⟨_, _, rfl⟩

theorem isOwnMapping_withOffset {config : Document α} (h : config.IsOwnMapping) (x : α) :
    (withOffset x config).IsOwnMapping := by
  obtain ⟨old, entries, hx⟩ := withOffset_eq h x
  rw [hx]
  exact ⟨_, rfl⟩

theorem view_withOffset {config : Document α} (h : config.IsOwnMapping) (x : α) :
    (((withOffset x config).entryOrNothing rotatorKey).entryOrNothing offsetKey).view = .atom (.number x) := by
  obtain ⟨old, entries, hx⟩ := withOffset_eq h x
  rw [hx, rotatorKey, Document.entryOrNothing_put, offsetKey, Document.entryOrNothing_put]
  rfl

theorem offset_withOffset [Scalar α] {config : Document α} (h : config.IsOwnMapping) (path : Option Path) (x : α) :
    offset ⟨path, withOffset x config⟩ = .ok (if Scalar.isZero x then Scalar.zero else x) := by
  unfold offset
  simp only [view_withOffset h]
  split_ifs <;> simp_all [View.isEmpty, Atom.isEmpty, View.toNumber, Atom.toNumber]

/-- A way of saving that fails when it likes, with any error and whatever it leaves behind then.  A save that succeeds
is the store's own on the disk. -/
def SavesOrFails {σ : Type} (format : DocumentFormat α) (diskOf : σ → Disk)
    (save : OptionStore α → σ → Outcome SaveError σ Unit) : Prop :=
  ∀ s world, (save s world).1 = .ok () → s.save format (diskOf world) = (.ok (), diskOf (save s world).2)

omit [NumberReading α] in
theorem savesOrFails_save (format : DocumentFormat α) : SavesOrFails format id (save format) :=
  fun _ _ hok => Prod.ext hok rfl

/-- Setting an offset leaves the store with it, whatever becomes of the file. -/
theorem setOffsetBy_cases {σ : Type} {format : DocumentFormat α} {diskOf : σ → Disk}
    {save : OptionStore α → σ → Outcome SaveError σ Unit} (hsave : SavesOrFails format diskOf save) (x : α)
    (s : OptionStore α) (world : σ) :
    (setOffsetBy save x (s, world)).2.1 = { s with config := withOffset x s.config } ∧
      ((setOffsetBy save x (s, world)).1 = .ok () →
        Filed format ((setOffsetBy save x (s, world)).2.1, diskOf (setOffsetBy save x (s, world)).2.2)) := by
  refine ⟨rfl, fun hok p hp => ?_⟩
  obtain ⟨text, hwrite, hsaved⟩ := text_of_save hp (hsave _ _ hok)
  exact ⟨text, hwrite, Disk.rawText?_of_save hsaved⟩

theorem setOffset_cases (format : DocumentFormat α) (x : α) (s : OptionStore α) (disk : Disk) :
    (setOffset format x (s, disk)).2.1 = { s with config := withOffset x s.config } ∧
      ((setOffset format x (s, disk)).1 = .ok () → Filed format (setOffset format x (s, disk)).2) :=
  setOffsetBy_cases (savesOrFails_save format) x s disk

end OptionStore

end EquatorialMount

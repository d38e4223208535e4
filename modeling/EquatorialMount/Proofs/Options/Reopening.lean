import EquatorialMount.Document.Format
import EquatorialMount.Proofs.Document.Reading
import EquatorialMount.Proofs.Options.Reload

/-!
# A store that is opened again

Options that are arranged have no section left out and all their defaults, so loading them once more is the identity
(`ofDocument_of_arranged`).  Every store has such options, whatever its file was and whichever offsets were set since.
So what a store had when its last offset was saved is what its file gives when it is opened again: the last offset, and
everything else as it was loaded first (`ofPath_setOffsets`).
-/

namespace EquatorialMount

open Entries

variable {α : Type} [NumberReading α]

namespace Options

/-! ### Arranged options -/

/-- Loading options that are arranged changes nothing. -/
theorem ofDocument_of_arranged [Scalar α] {config : Document α} (h : Arranged config) (path : Path) :
    ofDocument path config = .ok config := by
  obtain ⟨a, ha⟩ := h
  have hentries := entries?_of_arrangement ha
  have hsections : sectionsOf path config = .ok config := sectionsOf_of_entries hentries rfl rfl rfl rfl path
  have hupper : upperEntries config = a.entries := upperEntries_of_entries hentries rfl rfl rfl rfl
  have hoverlay : Tree.overlayEntries defaultEntries a.entries = a.entries := overlay_arrangement a rfl rfl rfl rfl
  unfold ofDocument
  rw [hsections]
  show Except.ok (config.holding (.map (Tree.overlayEntries defaultEntries (upperEntries config)))) = _
  rw [hupper, hoverlay, ← ha]
  rfl

private theorem withOffset_withOffset {config : Document α} (h : Arranged config) (x y : α) :
    OptionStore.withOffset y (OptionStore.withOffset x config) = OptionStore.withOffset y config := by
  obtain ⟨a, ha⟩ := h
  rw [withOffset_eq_of_arrangement ha, withOffset_eq_of_arrangement ha, withOffset_eq_of_arrangement rfl]
  rfl

/-- A new offset is all that changes. -/
private theorem sameBut_withOffset {config : Document α} (h : Arranged config) (x : α) :
    Document.SameBut [rotatorKey, offsetKey] config (OptionStore.withOffset x config) := by
  obtain ⟨a, ha⟩ := h
  have hrotator : Document.SameBut [offsetKey] (config.holding a.rotator.tree)
      (config.holding (a.withOffset x).rotator.tree) :=
    .of_first trivial fun e he => a.rotator.distinct.ne_of_text rfl he
  have hconfig : config = config.holding (.map a.entries) := by
    rw [← ha]
    rfl
  rw [withOffset_eq_of_arrangement ha, hconfig]
  exact .of_first hrotator fun e he => a.distinct.ne_of_text rfl he

end Options

/-! ### Laws of a format -/

namespace DocumentFormat

variable {format : DocumentFormat α}

/-- Of what is read no collection has a key twice. -/
def ReadsSeparated (format : DocumentFormat α) : Prop :=
  ∀ ⦃text : String⦄ ⦃d : Document α⦄, format.read text = .ok d → d.Separated

theorem ReadsSeparated.separatesKeys (h : format.ReadsSeparated) : format.SeparatesKeys :=
  fun _ _ _ hread hentries => (h hread).distinct hentries

theorem ReadsSeparated.apart (h : format.ReadsSeparated) {text : String} {d : Document α}
    (hread : format.read text = .ok d) : Options.Apart d where
  distinct := (h hread).distinct
  rotator := ((h hread).entryOrNothing Options.rotatorKey).distinct
  alignment := ((h hread).entryOrNothing Options.alignmentKey).distinct

theorem readsSeparated_yaml {order : SetOrder Float} : (yaml order).ReadsSeparated :=
  fun _ _ hread => Document.separated_of_ofText hread

/-- The text of a document, if it has one, is read as the document. -/
def ReadsBack (format : DocumentFormat α) (d : Document α) : Prop :=
  ∀ text, format.write d = .ok text →
    ∃ e, format.read (String.ofList (Disk.unifyBreaks text.toList)) = .ok e ∧ e.Same d

omit [NumberReading α] in
theorem readsBack_of_agree [DecidableEq α] {d : Document α} (text : String) (depth : Nat)
    (hwrite : format.write d = .ok text)
    (hagree : (match format.read (String.ofList (Disk.unifyBreaks text.toList)) with
      | .ok e => Document.agree depth e d
      | .error _ => false) = true) : format.ReadsBack d := by
  intro text' htext'
  cases hwrite.symm.trans htext'
  cases hread : format.read (String.ofList (Disk.unifyBreaks text.toList)) with
  | error e =>
    rw [hread] at hagree
    cases hagree
  | ok e =>
    rw [hread] at hagree
    exact ⟨e, rfl, Document.same_of_agree hagree⟩

end DocumentFormat

namespace OptionStore

open Options

variable {format : DocumentFormat α}

/-! ### Offsets that are set one after the other -/

/-- Sets offsets one after the other, and tells the answer to each. -/
def setOffsets (format : DocumentFormat α) : List α → OptionStore α × Disk →
    List (Except SaveError Unit) × OptionStore α × Disk
  | [], kept => ([], kept)
  | x :: rest, kept =>
    let (answer, kept) := setOffset format x kept
    let (answers, kept) := setOffsets format rest kept
    (answer :: answers, kept)

private theorem setOffsets_append (xs ys : List α) (kept : OptionStore α × Disk) :
    setOffsets format (xs ++ ys) kept =
      ((setOffsets format xs kept).1 ++ (setOffsets format ys (setOffsets format xs kept).2).1,
        (setOffsets format ys (setOffsets format xs kept).2).2) := by
  induction xs generalizing kept with
  | nil => rfl
  | cons x rest ih => simp only [List.cons_append, setOffsets, ih]

/-- Of the offsets that were set, the options show the last one only. -/
private theorem config_setOffsets (format : DocumentFormat α) {kept : OptionStore α × Disk} (h : Arranged kept.1.config)
    (xs : List α) :
    (setOffsets format xs kept).2.1.path = kept.1.path ∧ Arranged (setOffsets format xs kept).2.1.config ∧
      ∀ x, withOffset x (setOffsets format xs kept).2.1.config = withOffset x kept.1.config := by
  induction xs generalizing kept with
  | nil => exact ⟨rfl, h, fun _ => rfl⟩
  | cons y rest ih =>
    have hset : (setOffset format y kept).2.1 = { kept.1 with config := withOffset y kept.1.config } :=
      (setOffset_cases format y kept.1 kept.2).1
    have harranged : Arranged (setOffset format y kept).2.1.config := hset ▸ arranged_withOffset h y
    obtain ⟨hpath, hrest, hsame⟩ := ih harranged
    rw [hset] at hpath hsame
    exact ⟨hpath, hrest, fun x => (hsame x).trans (withOffset_withOffset h y x)⟩

/-- After offsets that were all saved the options show the last one, and the file has their text. -/
private theorem setOffsets_last {store last : OptionStore α} {disk saved : Disk} (h : Arranged store.config)
    {xs : List α} {x : α} {answers : List (Except SaveError Unit)}
    (hset : setOffsets format (xs ++ [x]) (store, disk) = (answers, last, saved))
    (hanswers : ∀ answer ∈ answers, answer = .ok ()) :
    last.path = store.path ∧ last.config = withOffset x store.config ∧ Filed format (last, saved) := by
  have harranged : Arranged (store, disk).1.config := h
  obtain ⟨hpath, -, hconfig⟩ := config_setOffsets format harranged xs
  rw [setOffsets_append] at hset
  generalize (setOffsets format xs (store, disk)).2 = between at hset hpath hconfig
  obtain ⟨hlast, hfiled⟩ := setOffset_cases format x between.1 between.2
  obtain ⟨rfl, hsaved⟩ := Prod.mk.inj hset
  have hkept : (setOffset format x between).2 = (last, saved) := hsaved
  have hanswer : (setOffset format x between).1 = .ok () :=
    hanswers _ (List.mem_append_right _ (List.mem_singleton.2 rfl))
  rw [hkept] at hlast hfiled
  have hlast : last = { between.1 with config := withOffset x between.1.config } := hlast
  exact ⟨hlast ▸ hpath, hlast ▸ hconfig x, hfiled hanswer⟩

/-! ### Opening the store again -/

/-- The options at hand after offsets were set and saved, the last of them `x`, are those the store is opened with
again, if their text is read as a document that is the same as they: with `x` for an offset, and otherwise as they were
loaded.  For whatever options a store can have, loading changes nothing. -/
theorem ofPath_setOffsets [Scalar α] (hformat : format.ReadsSeparated) {disk saved : Disk} {path : Path}
    {store last : OptionStore α} {xs : List α} {x : α} {answers : List (Except SaveError Unit)}
    (hstore : ofPath format disk (some path) = .ok store)
    (hset : setOffsets format (xs ++ [x]) (store, disk) = (answers, last, saved))
    (hanswers : ∀ answer ∈ answers, answer = .ok ()) (hread : format.ReadsBack last.config) :
    (∃ reopened, ofPath format saved (some path) = .ok reopened ∧ reopened.config.Same last.config ∧
      ((reopened.config.entryOrNothing rotatorKey).entryOrNothing offsetKey).view = .atom (.number x) ∧
      Document.SameBut [rotatorKey, offsetKey] store.config reopened.config) ∧
    ∀ config, Kept format config → ofDocument path config = .ok config := by
  refine ⟨?_, fun config hkept => ofDocument_of_arranged (arranged_of_kept hformat.separatesKeys hkept) path⟩
  obtain ⟨hpath, hload⟩ := load_of_ofPath hstore
  have harranged : Arranged store.config := arranged_of_load hformat.separatesKeys hload
  obtain ⟨hsamePath, hconfig, hfiled⟩ := setOffsets_last harranged hset hanswers
  obtain ⟨text, hwrite, hraw⟩ := hfiled path (hsamePath.trans hpath)
  obtain ⟨d, hd, hsame⟩ := hread text hwrite
  obtain ⟨reopened, hreopened, -, hsame, -⟩ :=
    ofPath_of_read hraw hd hsame (hconfig ▸ arranged_withOffset harranged x) (hformat.apart hd)
  refine ⟨reopened, hreopened, hsame, ?_, ?_⟩
  · have hview := ((hsame.entryOrNothing "rotator").entryOrNothing "pa_offset").view
    rw [hconfig, ← rotatorKey, ← offsetKey, view_withOffset (isOwnMapping_of_load hload)] at hview
    generalize ((reopened.config.entryOrNothing rotatorKey).entryOrNothing offsetKey).view = v at hview ⊢
    cases hview
    rfl
  · exact (hconfig ▸ sameBut_withOffset harranged x).trans_same hsame.symm

/-- A file with a section that is null, one with a key of its own in front, and one that is not known. -/
def hillDisk : Disk :=
  ⟨[(["mount.yaml"],
    .file (some "mount: \x7baxes: [ra]\x7d\npolar_alignment: \x7bsite: hill, latitude: 52\x7d\nrotator:\n"))]⟩

/-- The store that is opened from it. -/
def hillStore : OptionStore Float :=
  (ofPath (.yaml .asWritten) hillDisk (some ⟨"mount.yaml"⟩)).toOption.getD ⟨none, defaults⟩

/-- The store and the disk after two offsets. -/
def hillStored : OptionStore Float × Disk := (setOffsets (.yaml .asWritten) [370, -20] (hillStore, hillDisk)).2

/-- What the file has then. -/
def hillText : String :=
  "rotator:\n  pa_offset: -20.0\npolar_alignment:\n  latitude: 52\n  site: hill\nmount:\n  axes:\n  - ra\n"

theorem ofPath_setOffsets_hill : ∃ reopened,
    ofPath (.yaml .asWritten) hillDisk (some ⟨"mount.yaml"⟩) = .ok hillStore ∧
      setOffsets (.yaml .asWritten) ([370] ++ [-20]) (hillStore, hillDisk) =
        ([.ok (), .ok ()], hillStored.1, hillStored.2) ∧
      (DocumentFormat.yaml .asWritten).write hillStored.1.config = .ok hillText ∧
      ofPath (.yaml .asWritten) hillStored.2 (some ⟨"mount.yaml"⟩) = .ok reopened ∧
      reopened.config.Same hillStored.1.config ∧
      ((reopened.config.entryOrNothing rotatorKey).entryOrNothing offsetKey).view = .atom (.number (-20)) ∧
      Document.SameBut [rotatorKey, offsetKey] hillStore.config reopened.config ∧
      ofDocument ⟨"mount.yaml"⟩ hillStore.config = .ok hillStore.config := by
  have hok : (ofPath (.yaml .asWritten) hillDisk (some ⟨"mount.yaml"⟩)).isOk = true := by decide +kernel
  have hstore : ofPath (.yaml .asWritten) hillDisk (some ⟨"mount.yaml"⟩) = .ok hillStore := by
    unfold hillStore
    generalize ofPath (.yaml .asWritten) hillDisk (some ⟨"mount.yaml"⟩) = opened at hok ⊢
    cases opened with
    | error e => cases hok
    | ok store => rfl
  have hanswers : (setOffsets (.yaml .asWritten) [370, -20] (hillStore, hillDisk)).1 = [.ok (), .ok ()] := by
    decide +kernel
  have hset : setOffsets (.yaml .asWritten) ([370] ++ [-20]) (hillStore, hillDisk) =
      ([.ok (), .ok ()], hillStored.1, hillStored.2) := by
    rw [← hanswers, hillStored, List.singleton_append]
  have hwrite : (DocumentFormat.yaml .asWritten).write hillStored.1.config = .ok hillText := by decide +kernel
  have hread : (DocumentFormat.yaml .asWritten).ReadsBack hillStored.1.config :=
    DocumentFormat.readsBack_of_agree hillText 4 hwrite (by decide +kernel)
  obtain ⟨⟨reopened, hreopened, hsame, hview, hbut⟩, hfixed⟩ :=
    ofPath_setOffsets DocumentFormat.readsSeparated_yaml hstore hset (by simp) hread
  obtain ⟨-, hload⟩ := load_of_ofPath hstore
  exact ⟨reopened, hstore, hset, hwrite, hreopened, hsame, hview, hbut, hfixed _ (.loaded hload)⟩

end OptionStore

end EquatorialMount

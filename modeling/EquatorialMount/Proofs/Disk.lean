import Mathlib.Tactic.SplitIfs
import EquatorialMount.Disk

/-!
# Saving a file

A text that was saved is the text of the file from then on (`find_of_save`): the way to the file leads over folders
alone, and writing the file changes none of them.  Whether a text can be saved does not depend on the texts that are on
the disk, so two disks with the same folders and files answer alike, whatever is in the files (`Alike.save`).
-/

namespace EquatorialMount

/-- An entry but for the text of a file. -/
def DiskEntry.outline : DiskEntry → DiskEntry
  | folder => folder
  | file _ => file none

namespace Disk

/-! ### Entries -/

private theorem lookup_setEntry (d : Disk) (place : List String) (entry : DiskEntry) (other : List String) :
    (d.setEntry place entry).entries.lookup other =
      if other = place then some entry else d.entries.lookup other := by
  have hfilter (h : other ≠ place) :
      (d.entries.filter (·.1 ≠ place)).lookup other = d.entries.lookup other := by
    induction d.entries with
    | nil => rfl
    | cons head rest ih =>
      by_cases hhead : head.1 = place
      · rw [List.filter_cons_of_neg (by simpa using hhead), ih, List.lookup_cons, beq_false_of_ne (hhead ▸ h)]
      · rw [List.filter_cons_of_pos (by simpa using hhead), List.lookup_cons, List.lookup_cons, ih]
  unfold setEntry
  by_cases h : other = place
  · rw [if_pos h, h, List.lookup_cons_self]
  · rw [if_neg h, List.lookup_cons, beq_false_of_ne h]
    exact hfilter h

private theorem isGiven_of_ne_folder {d : Disk} {place : List String} (h : d.entryAt? place ≠ some .folder) :
    isGiven place = false :=
  Bool.eq_false_iff.2 fun hgiven => h (if_pos hgiven)

private theorem entryAt?_setEntry {d : Disk} {place : List String} (hplace : d.entryAt? place ≠ some .folder)
    (entry : DiskEntry) (other : List String) :
    (d.setEntry place entry).entryAt? other = if other = place then some entry else d.entryAt? other := by
  unfold entryAt?
  rw [lookup_setEntry]
  by_cases h : other = place
  · rw [if_pos h, if_pos h, h, isGiven_of_ne_folder hplace]
    rfl
  · rw [if_neg h, if_neg h]

/-! ### Following a path -/

/-- Where a path ends that does not end at a folder: at a file, or where one can be made. -/
def Found.end? : Found → Option (List String)
  | .file place _ => some place
  | .absent place => some place
  | _ => none

private theorem entryAt?_of_end {d : Disk} {start place : List String} {steps : List String}
    (h : (d.follow start steps).end? = some place) : d.entryAt? place ≠ some .folder := by
  fun_induction follow d start steps with
  | case7 _ _ _ _ _ _ _ _ hentry =>
    cases h
    simp [hentry]
  | case9 _ _ _ _ _ _ _ hentry =>
    cases h
    simp [hentry]
  | _ => simp_all [Found.end?]

/-- The way to a file does not lead through it, so the file is found where it was written. -/
private theorem follow_setEntry {d : Disk} {start place : List String} {steps : List String} (text : Option String)
    (h : (d.follow start steps).end? = some place) :
    (d.setEntry place (.file text)).follow start steps = .file place text := by
  have hplace := entryAt?_of_end h
  have hset := entryAt?_setEntry hplace (.file text)
  fun_induction follow d start steps with
  | case6 start c rest _ _ _ _ hentry ih =>
    have hne : start ++ [c] ≠ place := by
      rintro rfl
      exact hplace hentry
    simp_all [follow]
  | case7 start c rest _ _ _ _ t hentry hrest =>
    cases h
    simp_all [follow]
  | case9 start c rest _ _ _ _ hentry hrest =>
    cases h
    simp_all [follow]
  | _ => simp_all [Found.end?, follow]

/-- A path is refused by its text alone, or it is followed from where the disk is looked at. -/
private theorem find_cases (p : Path) :
    (∃ found : Found, found.end? = none ∧ ∀ d : Disk, d.find p = found) ∨
      ∀ d : Disk, d.find p = d.follow [] p.steps := by
  unfold find
  split
  · exact .inl ⟨_, rfl, fun _ => rfl⟩
  · split
    · exact .inl ⟨_, rfl, fun _ => rfl⟩
    · split
      · exact .inl ⟨_, rfl, fun _ => rfl⟩
      · exact .inr fun _ => rfl

private theorem entryAt?_of_find {d : Disk} {p : Path} {place : List String} (h : (d.find p).end? = some place) :
    d.entryAt? place ≠ some .folder := by
  obtain ⟨found, hfound, hfind⟩ | hfind := find_cases p
  · rw [hfind, hfound] at h
    cases h
  · rw [hfind] at h
    exact entryAt?_of_end h

/-! ### Saving -/

private theorem write_cases (p : Path) (text : String) (d : Disk) :
    (∃ place, (d.find p).end? = some place ∧ d.write p text = (.ok (), d.setEntry place (.file (some text)))) ∨
      (d.find p).end? = none ∧ ∃ e, d.write p text = (.error e, d) := by
  unfold write
  split <;> simp_all [Found.end?]

private theorem find_of_write {p : Path} {text : String} {d saved : Disk} (h : d.write p text = (.ok (), saved)) :
    ∃ place, saved.find p = .file place (some text) := by
  obtain ⟨place, hend, hwrite⟩ | ⟨-, e, hwrite⟩ := write_cases p text d
  · rw [hwrite] at h
    cases h
    obtain ⟨found, hfound, hfind⟩ | hfind := find_cases p
    · rw [hfind, hfound] at hend
      cases hend
    · rw [hfind] at hend
      exact ⟨place, (hfind _).trans (follow_setEntry _ hend)⟩
  · rw [hwrite] at h
    cases h

theorem find_of_save {p : Path} {text : String} {d saved : Disk} (h : d.save p text = (.ok (), saved)) :
    ∃ place, saved.find p = .file place (some text) := by
  unfold save at h
  split at h
  · exact find_of_write h
  · rename_i failed hfailed
    exact absurd h (hfailed _)

theorem rawText?_of_save {p : Path} {text : String} {d saved : Disk} (h : d.save p text = (.ok (), saved)) :
    saved.rawText? p = some text := by
  obtain ⟨place, hplace⟩ := find_of_save h
  rw [rawText?, hplace]

private theorem find_of_rawText? {d : Disk} {p : Path} {text : String} (h : d.rawText? p = some text) :
    ∃ place, d.find p = .file place (some text) := by
  unfold rawText? at h
  split at h
  · rename_i place _ hfind
    exact ⟨place, h ▸ hfind⟩
  · cases h

theorem doesExist_of_rawText? {d : Disk} {p : Path} {text : String} (h : d.rawText? p = some text) :
    d.doesExist p = .ok true := by
  obtain ⟨place, hplace⟩ := find_of_rawText? h
  rw [doesExist, hplace]

theorem doesExist_of_read {d : Disk} {p : Path} {text : String} (h : d.read p = .ok text) :
    d.doesExist p = .ok true := by
  unfold read at h
  split at h
  · rename_i hfind
    rw [doesExist, hfind]
  all_goals cases h

theorem read_of_rawText? {d : Disk} {p : Path} {text : String} (h : d.rawText? p = some text) :
    d.read p = .ok (String.ofList (unifyBreaks text.toList)) := by
  obtain ⟨place, hplace⟩ := find_of_rawText? h
  rw [read, hplace]

/-! ### Disks that are alike -/

/-- Two disks with folders and files at the same places, whatever the files hold. -/
def Alike (d e : Disk) : Prop :=
  ∀ place, (d.entryAt? place).map DiskEntry.outline = (e.entryAt? place).map DiskEntry.outline

theorem Alike.refl (d : Disk) : d.Alike d := fun _ => rfl

/-- What a path leads to, but for the text of a file. -/
def Found.outline : Found → Found
  | .file place _ => .file place none
  | found => found

variable {d e : Disk}

private theorem Alike.follow_outline (h : d.Alike e) (start steps : List String) :
    (d.follow start steps).outline = (e.follow start steps).outline := by
  induction steps generalizing start with
  | nil => rfl
  | cons c rest ih =>
    have hentry := h (start ++ [c])
    unfold follow
    cases hd : d.entryAt? (start ++ [c]) with
    | none =>
      have he : e.entryAt? (start ++ [c]) = none := by
        rw [hd] at hentry
        exact Option.map_eq_none_iff.1 hentry.symm
      rw [he]
      split_ifs <;> first | exact ih _ | rfl
    | some entry =>
      rw [hd] at hentry
      obtain ⟨entry', he, hentry⟩ := Option.map_eq_some_iff.1 hentry.symm
      rw [he]
      cases entry with
      | folder =>
        cases entry' with
        | folder => split_ifs <;> first | exact ih _ | rfl
        | file text => cases hentry
      | file text =>
        cases entry' with
        | folder => cases hentry
        | file text' => split_ifs <;> first | exact ih _ | rfl

private theorem Alike.find_outline (h : d.Alike e) (p : Path) : (d.find p).outline = (e.find p).outline := by
  obtain ⟨found, -, hfind⟩ | hfind := find_cases p
  · rw [hfind, hfind]
  · rw [hfind, hfind]
    exact h.follow_outline _ _

theorem Alike.setEntry (h : d.Alike e) {place : List String} (hd : d.entryAt? place ≠ some .folder)
    {entry entry' : DiskEntry} (hentry : entry.outline = entry'.outline) :
    (d.setEntry place entry).Alike (e.setEntry place entry') := by
  have he : e.entryAt? place ≠ some .folder := by
    intro he
    have hplace := h place
    rw [he] at hplace
    obtain ⟨entry, hentry, hfolder⟩ := Option.map_eq_some_iff.1 hplace
    cases entry with
    | folder => exact hd hentry
    | file text => cases hfolder
  intro other
  rw [entryAt?_setEntry hd, entryAt?_setEntry he]
  split_ifs
  · simp [hentry]
  · exact h other

/-- Two outcomes with the same answer that leave disks behind that are alike. -/
def AlikeOutcomes (x y : Outcome FileError Disk Unit) : Prop :=
  ∃ answer d e, x = (answer, d) ∧ y = (answer, e) ∧ d.Alike e

theorem Alike.makeFolder (h : d.Alike e) (p : Path) : AlikeOutcomes (d.makeFolder p) (e.makeFolder p) := by
  have hfind := h.find_outline p
  unfold Disk.makeFolder
  cases hd : d.find p <;> cases he : e.find p <;> rw [hd, he] at hfind <;> cases hfind
  case absent => exact ⟨_, _, _, rfl, rfl, h.setEntry (entryAt?_of_find (by rw [hd]; rfl)) rfl⟩
  all_goals exact ⟨_, _, _, rfl, rfl, h⟩

theorem Alike.makeFolders (h : d.Alike e) (fuel : Nat) (p : Path) :
    AlikeOutcomes (d.makeFolders fuel p) (e.makeFolders fuel p) := by
  induction fuel generalizing p d e with
  | zero => exact h.makeFolder p
  | succ fuel ih =>
    obtain ⟨made, d1, e1, hd1, he1, h1⟩ := h.makeFolder p
    unfold Disk.makeFolders
    rw [hd1, he1]
    cases made with
    | ok _ => exact ⟨_, _, _, rfl, rfl, h1⟩
    | error reason =>
      cases reason with
      | notFound _ =>
        -- the folders above are made first
        obtain ⟨above, d2, e2, hd2, he2, h2⟩ := ih h1 p.parent
        simp only [hd2, he2]
        cases above with
        | ok _ => exact h2.makeFolder p
        | error _ => exact ⟨_, _, _, rfl, rfl, h2⟩
      | _ => exact ⟨_, _, _, rfl, rfl, h1⟩

theorem Alike.write (h : d.Alike e) (p : Path) (text text' : String) :
    AlikeOutcomes (d.write p text) (e.write p text') := by
  have hfind := h.find_outline p
  unfold Disk.write
  cases hd : d.find p <;> cases he : e.find p <;> rw [hd, he] at hfind <;> cases hfind
  case file => exact ⟨_, _, _, rfl, rfl, h.setEntry (entryAt?_of_find (by rw [hd]; rfl)) rfl⟩
  case absent => exact ⟨_, _, _, rfl, rfl, h.setEntry (entryAt?_of_find (by rw [hd]; rfl)) rfl⟩
  all_goals exact ⟨_, _, _, rfl, rfl, h⟩

/-- Whether a file can be saved, and which folders are made for it, has nothing to do with what is in the files. -/
theorem Alike.save (h : d.Alike e) (p : Path) (text text' : String) :
    AlikeOutcomes (d.save p text) (e.save p text') := by
  obtain ⟨made, d1, e1, hd1, he1, h1⟩ := h.makeFolders p.components.length p.parent
  unfold Disk.save
  rw [hd1, he1]
  cases made with
  | ok _ => exact h1.write p text text'
  | error _ => exact ⟨_, _, _, rfl, rfl, h1⟩

end Disk

end EquatorialMount

import EquatorialMount.Proofs.Options.Arrangement
import EquatorialMount.Proofs.Options.Store

/-!
# Options that are loaded again

Options that have been loaded are arranged, so loading them once more finds nothing to add and nothing to leave out:
what it makes of a document that is the same as the options is the same as the options (`ofDocument_same`).  So a store
whose file has the text of its options opens again with options that are the same (`ofPath_alike`), and from then on the
two stores answer every new offset alike, each with its own file (`Alike.setOffset`).
-/

namespace EquatorialMount

open Entries EquatorialMount.Tree

variable {α : Type} [NumberReading α]

namespace Options

/-! ### Sections -/

section Sections

variable {d e : Document α}

private theorem Section.of_same {name : ScalarText} {s : Section α (.text name)} (h : d.Same (e.holding s.tree))
    (hdistinct : ∀ {entries}, d.entries? = some entries → Distinct entries) :
    ∃ (t : Section α (.text name)) (k : Leaf α), d.entries? = some ((k, t.value) :: t.others) ∧ k.atom = .text name ∧
      (d.holding t.tree).Same (e.holding s.tree) := by
  obtain ⟨entries, hentries, hall⟩ := h.entries (Document.entries?_holding_map e s.entries)
  obtain ⟨⟨k, o⟩, rest, ⟨hk, ho⟩, hrest, rfl⟩ := List.forall₂_cons_right_iff.1 hall
  have hapart : Distinct ((k, o) :: rest) := hdistinct hentries
  exact ⟨⟨o, rest, hapart.tail.cons_text (fun _ he => hapart.ne_of_text hk he) o⟩, k, hentries, hk,
    .of_entries rfl rfl (.cons ⟨rfl, ho⟩ hrest)⟩

/-- A section laid over its default is the section. -/
private theorem overlay_default {s : ScalarText} (t : Section α (.text s)) {k : Leaf α} (hk : k.atom = .text s)
    (x : Held α) :
    overlay (some (.map [(.new (.text s), .leaf x)])) (.map ((k, t.value) :: t.others)) = t.tree := by
  have hothers : ∀ e ∈ t.others, (Leaf.new (.text s) == e.1) = false := fun e he =>
    Bool.eq_false_iff.2 fun heq => t.distinct.ne_of_text rfl he (Leaf.text_beq.1 heq)
  have hrest : overlayEntries [] t.others = t.others := overlayEntries_append t.distinct.tail
  rw [overlay_map, overlayEntries_head _ _ (Leaf.text_beq.2 hk) hothers, overlay_leaf, hrest]
  rfl

end Sections

/-! ### A document that needs no arranging -/

private theorem checkSection_of_entries {path : Path} {name : String} {d : Document α}
    {entries : List (Leaf α × Value α)} (hentries : d.entries? = some entries)
    (h : ∀ v, get? (.new (.text name)) entries = some v → (d.holding v).entries?.isSome) :
    checkSection path name d = .ok d := by
  unfold checkSection
  rw [Document.entry?_of_entries hentries]
  cases hget : get? (.new (.text name)) entries with
  | none => rfl
  | some v =>
    obtain ⟨own, hown⟩ := Option.isSome_iff_exists.1 (h v hget)
    simp only [Option.map_some, Document.view_of_entries hown]

section Shown

variable {a : Arrangement α} {d : Document α} {kr ka : Leaf α} {vr va : Value α}

private theorem Arrangement.others_ne (a : Arrangement α) {e : Leaf α × Value α} (he : e ∈ a.others) :
    e.1.atom ≠ rotatorKey ∧ e.1.atom ≠ alignmentKey :=
  ⟨a.distinct.ne_of_text rfl (List.mem_cons_of_mem _ he), a.distinct.tail.ne_of_text rfl he⟩

private theorem entryOrNothing_rotatorKey {others : List (Leaf α × Value α)}
    (hentries : d.entries? = some ((kr, vr) :: others)) (hkr : kr.atom = rotatorKey) :
    d.entryOrNothing rotatorKey = d.holding vr := by
  have hget : get? (.new rotatorKey) ((kr, vr) :: others) = some vr := if_pos (Leaf.beq_text.2 hkr)
  rw [Document.entryOrNothing, rotatorKey, Document.entry?_of_entries hentries, ← rotatorKey, hget]
  rfl

theorem get?_alignmentKey {others : List (Leaf α × Value α)} (hkr : kr.atom = rotatorKey)
    (hka : ka.atom = alignmentKey) : get? (.new alignmentKey) ((kr, vr) :: (ka, va) :: others) = some va := by
  have hne : ¬(kr == .new alignmentKey) = true := by
    intro h
    exact alignmentKey_ne_rotatorKey ((Leaf.beq_text.1 h).symm.trans hkr)
  exact (if_neg hne).trans (if_pos (Leaf.beq_text.2 hka))

private theorem entryOrNothing_alignmentKey {others : List (Leaf α × Value α)}
    (hentries : d.entries? = some ((kr, vr) :: (ka, va) :: others)) (hkr : kr.atom = rotatorKey)
    (hka : ka.atom = alignmentKey) : d.entryOrNothing alignmentKey = d.holding va := by
  rw [Document.entryOrNothing, alignmentKey, Document.entry?_of_entries hentries, ← alignmentKey,
    get?_alignmentKey hkr hka]
  rfl

theorem sectionsOf_of_entries {others : List (Leaf α × Value α)}
    (hentries : d.entries? = some ((kr, vr) :: (ka, va) :: others)) (hkr : kr.atom = rotatorKey)
    (hka : ka.atom = alignmentKey) (hr : (d.holding vr).entries?.isSome) (ha : (d.holding va).entries?.isSome)
    (path : Path) : sectionsOf path d = .ok d := by
  have hrotator : checkSection path "rotator" d = .ok d := checkSection_of_entries hentries fun v hv => by
    have hget : get? (.new rotatorKey) ((kr, vr) :: (ka, va) :: others) = some vr := if_pos (Leaf.beq_text.2 hkr)
    exact Option.some.inj (hget.symm.trans hv) ▸ hr
  have halignment : checkSection path "polar_alignment" d = .ok d := checkSection_of_entries hentries fun v hv => by
    exact Option.some.inj ((get?_alignmentKey hkr hka).symm.trans hv) ▸ ha
  unfold sectionsOf
  rw [Document.view_of_entries hentries]
  show (checkSection path "rotator" d).bind (checkSection path "polar_alignment") = _
  rw [hrotator]
  exact halignment

variable [Scalar α]

theorem upperEntries_of_entries {rotator alignment : List (Leaf α × Value α)}
    (hentries : d.entries? = some ((kr, vr) :: (ka, va) :: a.others)) (hkr : kr.atom = rotatorKey)
    (hka : ka.atom = alignmentKey) (hr : (d.holding vr).entries? = some rotator)
    (ha : (d.holding va).entries? = some alignment) :
    upperEntries d = (kr, .map rotator) :: (ka, .map alignment) :: a.others := by
  rw [upperEntries, hentries, Option.getD_some, List.map_cons, List.map_cons]
  show (kr, if _ then _ else _) :: (ka, if _ then _ else _) :: _ = _
  rw [if_pos ((contains_defaultEntries kr).2 (.inl hkr)), if_pos ((contains_defaultEntries ka).2 (.inr hka)),
    Document.opened_of_entries hr, Document.opened_of_entries ha]
  -- no other entry is touched
  refine congrArg (_ :: _ :: ·) ?_
  refine (List.map_congr_left fun e he => ?_).trans (List.map_id _)
  exact Prod.ext rfl (if_neg ((contains_defaultEntries e.1).not.2 (not_or.2 (a.others_ne he))))

theorem overlay_arrangement (a : Arrangement α) {ko kl : Leaf α} (hkr : kr.atom = rotatorKey)
    (hka : ka.atom = alignmentKey) (hko : ko.atom = offsetKey) (hkl : kl.atom = latitudeKey) :
    overlayEntries defaultEntries ((kr, .map ((ko, a.rotator.value) :: a.rotator.others)) ::
      (ka, .map ((kl, a.alignment.value) :: a.alignment.others)) :: a.others) = a.entries := by
  have hrotator : (Leaf.new rotatorKey == kr) = true := Leaf.text_beq.2 hkr
  have halignment : (Leaf.new alignmentKey == ka) = true := Leaf.text_beq.2 hka
  have hnotRotator : ∀ e ∈ (ka, Tree.map ((kl, a.alignment.value) :: a.alignment.others)) :: a.others,
      (Leaf.new rotatorKey == e.1) = false := by
    intro e he
    refine Bool.eq_false_iff.2 fun heq => ?_
    have hatom : e.1.atom = rotatorKey := Leaf.text_beq.1 heq
    rcases List.mem_cons.1 he with rfl | he
    · exact alignmentKey_ne_rotatorKey (hka.symm.trans hatom)
    · exact (a.others_ne he).1 hatom
  have hnotAlignment : ∀ e ∈ a.others, (Leaf.new alignmentKey == e.1) = false := by
    intro e he
    exact Bool.eq_false_iff.2 fun heq => (a.others_ne he).2 (Leaf.text_beq.1 heq)
  have hothers : overlayEntries [] a.others = a.others := overlayEntries_append a.distinct.tail.tail
  rw [defaultEntries, overlayEntries_head _ _ hrotator hnotRotator, overlayEntries_head _ _ halignment hnotAlignment,
    hothers]
  have hr : overlay (some rotatorDefaults) (.map ((ko, a.rotator.value) :: a.rotator.others)) = a.rotator.tree :=
    overlay_default a.rotator hko _
  have ha : overlay (some alignmentDefaults) (.map ((kl, a.alignment.value) :: a.alignment.others)) =
      a.alignment.tree := overlay_default a.alignment hkl _
  rw [hr, ha]
  rfl

end Shown

/-- The keys of a document come up once each, and so do the keys of its sections. -/
structure Apart (d : Document α) : Prop where
  distinct {entries : List (Leaf α × Value α)} (h : d.entries? = some entries) : Distinct entries
  rotator {entries : List (Leaf α × Value α)} (h : (d.entryOrNothing rotatorKey).entries? = some entries) :
    Distinct entries
  alignment {entries : List (Leaf α × Value α)} (h : (d.entryOrNothing alignmentKey).entries? = some entries) :
    Distinct entries

/-- Where every number is defined, a document that is the same as options has the keys apart that those have. -/
private theorem Apart.of_same [NumberReading.Defined α] {d config : Document α} (h : d.Same config)
    (harranged : Arranged config) : Apart d := by
  have hatoms {d e : Document α} {entries : List (Leaf α × Value α)} (hsame : d.Same e)
      (he : e.entries? = some entries) (hdistinct : Distinct entries) {own : List (Leaf α × Value α)}
      (hown : d.entries? = some own) : Distinct own :=
    hdistinct.of_atoms (hsame.sameEntries hown he).atoms_eq
  obtain ⟨a, ha⟩ := harranged
  have hconfig := entries?_of_arrangement ha
  exact
    { distinct := hatoms h hconfig a.distinct
      rotator := hatoms (h.entryOrNothing "rotator")
        (by rw [← rotatorKey, entryOrNothing_rotatorKey hconfig rfl]; rfl) a.rotator.distinct
      alignment := hatoms (h.entryOrNothing "polar_alignment")
        (by rw [← alignmentKey, entryOrNothing_alignmentKey hconfig rfl rfl]; rfl) a.alignment.distinct }

/-- Loading a document that is the same as options that were loaded finds those options. -/
theorem ofDocument_same [Scalar α] {d config : Document α} (h : d.Same config) (harranged : Arranged config)
    (hapart : Apart d) (path : Path) :
    ∃ again, ofDocument path d = .ok again ∧ again.Same config ∧ Arranged again := by
  obtain ⟨a, ha⟩ := harranged
  have hconfig := entries?_of_arrangement ha
  obtain ⟨entries, hentries, hall⟩ := h.entries hconfig
  obtain ⟨⟨kr, vr⟩, rest, ⟨hkr, hvr⟩, hrest, rfl⟩ := List.forall₂_cons_right_iff.1 hall
  obtain ⟨⟨ka, va⟩, others, ⟨hka, hva⟩, hothers, rfl⟩ := List.forall₂_cons_right_iff.1 hrest
  obtain ⟨r, ko, hr, hko, hsameRotator⟩ := Section.of_same hvr fun hown =>
    hapart.rotator (entryOrNothing_rotatorKey hentries hkr ▸ hown)
  obtain ⟨l, kl, hl, hkl, hsameAlignment⟩ := Section.of_same hva fun hown =>
    hapart.alignment (entryOrNothing_alignmentKey hentries hkr hka ▸ hown)
  have hdistinct : Distinct ((.new rotatorKey, r.tree) :: (.new alignmentKey, l.tree) :: others) := by
    have hkeys : Distinct ((kr, vr) :: (ka, va) :: others) := hapart.distinct hentries
    have halignment := hkeys.tail.tail.cons_text (fun _ he => hkeys.tail.ne_of_text hka he) l.tree
    refine halignment.cons_text (fun e he => ?_) r.tree
    obtain rfl | he := List.mem_cons.1 he
    · exact alignmentKey_ne_rotatorKey
    · exact hkeys.ne_of_text hkr (List.mem_cons_of_mem _ he)
  have hsections : sectionsOf path d = .ok d :=
    sectionsOf_of_entries hentries hkr hka (Option.isSome_of_eq_some hr) (Option.isSome_of_eq_some hl) path
  have hoverlay : overlayEntries defaultEntries (upperEntries d) = (Arrangement.mk r l others hdistinct).entries := by
    rw [← overlay_arrangement ⟨r, l, others, hdistinct⟩ hkr hka hko hkl,
      ← upperEntries_of_entries hentries hkr hka hr hl]
  refine ⟨d.holding (.map (Arrangement.mk r l others hdistinct).entries), ?_, ?_, _, rfl⟩
  · unfold ofDocument
    rw [hsections, ← hoverlay]
    rfl
  · exact .of_entries rfl hconfig (.cons ⟨rfl, hsameRotator⟩ (.cons ⟨rfl, hsameAlignment⟩ hothers))

/-! ### The stored offset -/

private theorem withOffset_same {d e : Document α} (h : d.Same e) (hd : Arranged d) (he : Arranged e) (x : α) :
    (OptionStore.withOffset x d).Same (OptionStore.withOffset x e) := by
  obtain ⟨a, ha⟩ := hd
  obtain ⟨b, hb⟩ := he
  obtain ⟨⟨-, hrotator⟩, hrest⟩ := List.forall₂_cons.1 (h.sameEntries (entries?_of_arrangement ha)
    (entries?_of_arrangement hb))
  obtain ⟨-, hothers⟩ := List.forall₂_cons.1 (hrotator.sameEntries rfl rfl)
  have hnumber : (d.holding (Document.atom (.number x))).Same (e.holding (Document.atom (.number x))) :=
    .of_view_eq rfl
  have hsection : (d.holding (a.withOffset x).rotator.tree).Same (e.holding (b.withOffset x).rotator.tree) :=
    .of_entries rfl rfl (.cons ⟨rfl, hnumber⟩ hothers)
  rw [withOffset_eq_of_arrangement ha, withOffset_eq_of_arrangement hb]
  exact .of_entries rfl rfl (.cons ⟨rfl, hsection⟩ hrest)

end Options

/-! ### Files that are written and read -/

/-- Options as a store can have them: once loaded, and since then with any offsets set. -/
inductive Options.Kept [Scalar α] (format : DocumentFormat α) : Document α → Prop
  | loaded {disk : Disk} {path : Option Path} {config : Document α}
      (h : OptionStore.load format disk path = .ok config) : Kept format config
  | withOffset {config : Document α} (h : Kept format config) (x : α) : Kept format (OptionStore.withOffset x config)

/-- What is asked of a format so that options survive in a file: a mapping is read with each of its keys once, the text
of options that were loaded is read as these options, and documents that are the same have a text both or neither. -/
structure DocumentFormat.Lawful [Scalar α] (format : DocumentFormat α) : Prop where
  distinct {text : String} {d : Document α} {entries : List (Leaf α × Value α)} (h : format.read text = .ok d)
    (hentries : d.entries? = some entries) : Distinct entries
  read_write {config : Document α} {text : String} (h : Options.Kept format config)
    (hwrite : format.write config = .ok text) :
    ∃ d, format.read (String.ofList (Disk.unifyBreaks text.toList)) = .ok d ∧ d.Same config
  write_same {d e : Document α} (h : d.Same e) :
    (format.write d).map (fun _ => ()) = (format.write e).map fun _ => ()

/-- A mapping is read with each of its keys once. -/
def DocumentFormat.SeparatesKeys (format : DocumentFormat α) : Prop :=
  ∀ ⦃text : String⦄ ⦃d : Document α⦄ ⦃entries : List (Leaf α × Value α)⦄, format.read text = .ok d →
    d.entries? = some entries → Distinct entries

theorem DocumentFormat.Lawful.separatesKeys [Scalar α] {format : DocumentFormat α} (h : format.Lawful) :
    format.SeparatesKeys := fun _ _ _ hread hentries => h.distinct hread hentries

namespace OptionStore

variable [Scalar α] {format : DocumentFormat α}

theorem offset_same {s t : OptionStore α} (h : s.config.Same t.config) : s.offset = t.offset := by
  have hview : View.Rel Document.Same
      ((s.config.entryOrNothing Options.rotatorKey).entryOrNothing Options.offsetKey).view
      ((t.config.entryOrNothing Options.rotatorKey).entryOrNothing Options.offsetKey).view :=
    ((h.entryOrNothing "rotator").entryOrNothing "pa_offset").view
  unfold offset
  simp only
  rw [hview.isEmpty_eq, hview.toNumber_eq]

theorem arranged_of_load (hdistinct : format.SeparatesKeys) {disk : Disk} {path : Option Path} {config : Document α}
    (h : load format disk path = .ok config) : Options.Arranged config := by
  cases path with
  | none =>
    cases h
    exact Options.arranged_defaults
  | some p =>
    obtain ⟨-, rfl⟩ | ⟨text, d, -, -, hread, hd⟩ := Options.load_cases h
    · exact Options.arranged_defaults
    · exact Options.arranged_of_ofDocument (fun _ hentries => hdistinct hread hentries) hd

theorem arranged_of_kept (hdistinct : format.SeparatesKeys) {config : Document α} (h : Options.Kept format config) :
    Options.Arranged config := by
  induction h with
  | loaded h => exact arranged_of_load hdistinct h
  | withOffset _ x ih => exact Options.arranged_withOffset ih x

/-- A file whose text is read as a document that is the same as options is opened with these options. -/
theorem ofPath_of_read {disk : Disk} {p : Path} {text : String} {d config : Document α}
    (hraw : disk.rawText? p = some text) (hread : format.read (String.ofList (Disk.unifyBreaks text.toList)) = .ok d)
    (hsame : d.Same config) (harranged : Options.Arranged config) (hapart : Options.Apart d) :
    ∃ again, ofPath format disk (some p) = .ok again ∧ again.path = some p ∧ again.config.Same config ∧
      Options.Arranged again.config := by
  obtain ⟨again, hd, hconfig, harranged⟩ := Options.ofDocument_same hsame harranged hapart p
  have hload : load format disk (some p) = .ok again :=
    (Options.load_of_read (Disk.doesExist_of_rawText? hraw) (Disk.read_of_rawText? hraw) hread).trans hd
  refine ⟨⟨some p, again⟩, ?_, rfl, hconfig, harranged⟩
  unfold ofPath
  rw [hload]
  rfl

/-- A store whose file has the text of its options is opened again with the same options. -/
private theorem ofPath_of_filed [NumberReading.Defined α] (hformat : format.Lawful) {s : OptionStore α} {disk : Disk}
    (hkept : Options.Kept format s.config) (hfiled : Filed format (s, disk)) {p : Path} (hp : s.path = some p) :
    ∃ again, ofPath format disk s.path = .ok again ∧ again.path = s.path ∧ again.config.Same s.config ∧
      Options.Arranged again.config := by
  obtain ⟨text, hwrite, hraw⟩ := hfiled p hp
  obtain ⟨d, hread, hsame⟩ := hformat.read_write hkept hwrite
  have harranged := arranged_of_kept hformat.separatesKeys hkept
  rw [hp]
  exact ofPath_of_read hraw hread hsame harranged (.of_same hsame harranged)

/-! ### Stores that are alike -/

/-- Two stores of one path with the same options, on disks that are alike. -/
structure Alike (kept other : OptionStore α × Disk) : Prop where
  path_eq : other.1.path = kept.1.path
  same : other.1.config.Same kept.1.config
  arranged : Options.Arranged kept.1.config
  arranged' : Options.Arranged other.1.config
  disk : other.2.Alike kept.2

/-- Options that came from the file as it is, or whose text is in it, are opened again alike. -/
theorem ofPath_alike [NumberReading.Defined α] (hformat : format.Lawful) {kept : OptionStore α × Disk}
    {path : Path} (hpath : kept.1.path = some path) (hkept : Options.Kept format kept.1.config)
    (h : ofPath format kept.2 (some path) = .ok kept.1 ∨ Filed format kept) :
    ∃ reopened, ofPath format kept.2 (some path) = .ok reopened ∧ Alike kept (reopened, kept.2) := by
  have harranged := arranged_of_kept hformat.separatesKeys hkept
  obtain h | hfiled := h
  · exact ⟨kept.1, h, rfl, .refl _, harranged, harranged, .refl _⟩
  · obtain ⟨reopened, hreopened, hsamePath, hsame, harranged'⟩ := ofPath_of_filed hformat hkept hfiled hpath
    rw [hpath] at hreopened
    exact ⟨reopened, hreopened, hsamePath, hsame, harranged, harranged', .refl _⟩

/-- Saving two stores that are alike ends in the same way. -/
theorem Alike.save (hformat : format.Lawful) {kept other : OptionStore α × Disk} (h : Alike kept other) :
    (other.1.save format other.2).1 = (kept.1.save format kept.2).1 ∧
      (other.1.save format other.2).2.Alike (kept.1.save format kept.2).2 := by
  have hpath := h.path_eq
  cases hp : kept.1.path with
  | none =>
    rw [hp] at hpath
    unfold OptionStore.save
    rw [hp, hpath]
    exact ⟨rfl, h.disk⟩
  | some p =>
    rw [hp] at hpath
    obtain ⟨answer, disk, disk', hother, hkept, halike⟩ := h.disk.save p
      ((format.write other.1.config).toOption.getD "") ((format.write kept.1.config).toOption.getD "")
    have hwrite := hformat.write_same h.same
    rw [save_of_path hpath, save_of_path hp, hother, hkept]
    refine ⟨?_, halike⟩
    cases hd : format.write other.1.config <;> cases he : format.write kept.1.config <;> rw [hd, he] at hwrite <;>
      cases hwrite
    all_goals rfl

/-- Stores that are alike answer a new offset alike, and are alike with it. -/
theorem Alike.setOffset (hformat : format.Lawful) {kept other : OptionStore α × Disk} (h : Alike kept other) (x : α) :
    (setOffset format x other).1 = (setOffset format x kept).1 ∧
      Alike (setOffset format x kept).2 (setOffset format x other).2 := by
  have hset : Alike ({ kept.1 with config := withOffset x kept.1.config }, kept.2)
      ({ other.1 with config := withOffset x other.1.config }, other.2) :=
    { path_eq := h.path_eq
      same := Options.withOffset_same h.same h.arranged' h.arranged x
      arranged := Options.arranged_withOffset h.arranged x
      arranged' := Options.arranged_withOffset h.arranged' x
      disk := h.disk }
  obtain ⟨hanswer, hdisk⟩ := hset.save hformat
  exact ⟨hanswer, { hset with disk := hdisk }⟩

end OptionStore

end EquatorialMount

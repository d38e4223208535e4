import EquatorialMount.Options
import EquatorialMount.Proofs.Document.Same

/-!
# How options are arranged

Options begin with their two sections, each a mapping of its own that begins with the entry it has by default.  Loading
arranges every document in this way that can be loaded at all, and a new offset leaves the arrangement as it is.
-/

namespace EquatorialMount.Options

open Entries EquatorialMount.Tree

variable {α : Type}

theorem alignmentKey_ne_rotatorKey : (alignmentKey : Atom α) ≠ rotatorKey := by
  intro h
  exact absurd (Atom.text.inj h) (by decide)

variable [NumberReading α]

/-- The entries of a section whose first key is the one that it has by default. -/
structure Section (α : Type) [NumberReading α] (key : Atom α) where
  value : Value α
  others : List (Leaf α × Value α)
  distinct : Distinct ((.new key, value) :: others)

namespace Section

variable {key : Atom α}

def entries (s : Section α key) : List (Leaf α × Value α) := (.new key, s.value) :: s.others

def tree (s : Section α key) : Value α := .map s.entries

/-- The section with upper entries laid over it. -/
def overlaid (s : Section α key) (upper : List (Leaf α × Value α)) : Section α key where
  value := (upper.filter (.new key == ·.1)).foldl (fun t e => overlay (some t) e.2) s.value
  others := overlayEntries s.others (upper.filter (!.new key == ·.1))
  distinct := overlayEntries_cons (.new key) s.value ▸ distinct_overlayEntries s.distinct

private theorem overlay_tree (s : Section α key) (upper : List (Leaf α × Value α)) :
    overlay (some s.tree) (.map upper) = (s.overlaid upper).tree := by
  rw [tree, overlay_map, entries, overlayEntries_cons]
  rfl

/-- The section with another value of its first key. -/
def withValue (v : Value α) (s : Section α key) : Section α key :=
  ⟨v, s.others, s.distinct.of_keys rfl⟩

/-- Mappings laid over a section one after the other leave a section. -/
private theorem foldl_overlay (s : Section α key) (upper : List (Leaf α × Value α))
    (h : ∀ e ∈ upper, ∃ entries, e.2 = .map entries) :
    ∃ s' : Section α key, upper.foldl (fun t e => overlay (some t) e.2) s.tree = s'.tree := by
  induction upper generalizing s with
  | nil => exact ⟨s, rfl⟩
  | cons head rest ih =>
    obtain ⟨entries, hentries⟩ := h head List.mem_cons_self
    obtain ⟨s', hs'⟩ := ih (s.overlaid entries) fun e he => h e (List.mem_cons_of_mem _ he)
    refine ⟨s', ?_⟩
    rw [List.foldl_cons, hentries, overlay_tree, hs']

end Section

/-- Options as they are arranged. -/
structure Arrangement (α : Type) [NumberReading α] where
  rotator : Section α offsetKey
  alignment : Section α latitudeKey
  /-- What is in neither section. -/
  others : List (Leaf α × Value α)
  distinct : Distinct ((.new rotatorKey, rotator.tree) :: (.new alignmentKey, alignment.tree) :: others)

namespace Arrangement

def entries (a : Arrangement α) : List (Leaf α × Value α) :=
  (.new rotatorKey, a.rotator.tree) :: (.new alignmentKey, a.alignment.tree) :: a.others

def withOffset (x : α) (a : Arrangement α) : Arrangement α :=
  ⟨a.rotator.withValue (Document.atom (.number x)), a.alignment, a.others, a.distinct.of_keys rfl⟩

end Arrangement

/-- The document is options as they are arranged. -/
def Arranged (config : Document α) : Prop := ∃ a : Arrangement α, config.content = .map a.entries

theorem entries?_of_arrangement {config : Document α} {a : Arrangement α} (h : config.content = .map a.entries) :
    config.entries? = some a.entries := by
  unfold Document.entries?
  rw [h]

theorem withOffset_eq_of_arrangement {config : Document α} {a : Arrangement α} (h : config.content = .map a.entries)
    (x : α) : OptionStore.withOffset x config = config.holding (.map (a.withOffset x).entries) := by
  have hself (s : ScalarText) : (Leaf.new (.text s) == (Leaf.new (.text s) : Leaf α)) = true := Leaf.text_beq.2 rfl
  have hget : get? (.new rotatorKey) a.entries = some (.map a.rotator.entries) := if_pos (hself _)
  have hputOffset : put (.new offsetKey) (Document.atom (.number x)) a.rotator.entries =
      (a.withOffset x).rotator.entries := if_pos (hself _)
  have hput : put (.new rotatorKey) (a.withOffset x).rotator.tree a.entries = (a.withOffset x).entries :=
    if_pos (hself _)
  unfold OptionStore.withOffset
  rw [h]
  simp only [hget, hputOffset]
  exact congrArg (fun entries => config.holding (.map entries)) hput

theorem arranged_withOffset {config : Document α} (h : Arranged config) (x : α) :
    Arranged (OptionStore.withOffset x config) := by
  obtain ⟨a, ha⟩ := h
  rw [withOffset_eq_of_arrangement ha]
  exact ⟨a.withOffset x, rfl⟩

/-! ### Loading -/

section Defaults

variable [Scalar α]

/-- The section of the rotator if the file has none. -/
def rotatorSection : Section α offsetKey := ⟨Document.atom (.number Scalar.zero), [], List.pairwise_singleton _ _⟩

/-- The section on polar alignment if the file has none. -/
def alignmentSection : Section α latitudeKey := ⟨Document.atom .null, [], List.pairwise_singleton _ _⟩

private theorem distinct_defaultEntries : Distinct (defaultEntries : List (Leaf α × Value α)) := by
  refine List.pairwise_cons.2 ⟨fun e he => ?_, List.pairwise_singleton _ _⟩
  rw [List.mem_singleton.1 he]
  exact Bool.eq_false_iff.2 fun h => alignmentKey_ne_rotatorKey (Leaf.text_beq.1 h)

theorem arranged_defaults : Arranged (defaults : Document α) :=
  ⟨⟨rotatorSection, alignmentSection, [], distinct_defaultEntries⟩, rfl⟩

/-- Whatever is laid over the defaults, the sections stay in front and stay mappings. -/
private theorem arrangement_of_overlay {upper : List (Leaf α × Value α)}
    (hrotator : ∀ e ∈ upper, e.1.atom = rotatorKey → ∃ entries, e.2 = .map entries)
    (halignment : ∀ e ∈ upper, e.1.atom = alignmentKey → ∃ entries, e.2 = .map entries) :
    ∃ a : Arrangement α, overlayEntries defaultEntries upper = a.entries := by
  obtain ⟨r, hr⟩ := (rotatorSection (α := α)).foldl_overlay (upper.filter (.new rotatorKey == ·.1)) fun e he => by
    obtain ⟨hmem, hkey⟩ := List.mem_filter.1 he
    exact hrotator e hmem (Leaf.text_beq.1 hkey)
  obtain ⟨a, ha⟩ := (alignmentSection (α := α)).foldl_overlay
    ((upper.filter (!.new rotatorKey == ·.1)).filter (.new alignmentKey == ·.1)) fun e he => by
      obtain ⟨hmem, hkey⟩ := List.mem_filter.1 he
      exact halignment e (List.mem_filter.1 hmem).1 (Leaf.text_beq.1 hkey)
  have h : overlayEntries defaultEntries upper = (.new rotatorKey, r.tree) :: (.new alignmentKey, a.tree) ::
      overlayEntries [] ((upper.filter (!.new rotatorKey == ·.1)).filter (!.new alignmentKey == ·.1)) := by
    rw [defaultEntries, overlayEntries_cons, overlayEntries_cons, ← hr, ← ha]
    rfl
  exact ⟨⟨r, a, _, h ▸ distinct_overlayEntries distinct_defaultEntries⟩, h⟩

omit [Scalar α] in
/-- A section that is checked is a mapping if it is there, and every other value that was a mapping still is one. -/
private theorem checkSection_cases {path : Path} {name : String} {d checked : Document α}
    {entries : List (Leaf α × Value α)} (hentries : d.entries? = some entries) (hdistinct : Distinct entries)
    (h : checkSection path name d = .ok checked) :
    ∃ kept, checked.entries? = some kept ∧ kept.Sublist entries ∧
      (∀ e ∈ kept, e.1.atom = .text name → (checked.holding e.2).entries?.isSome) ∧
      ∀ v, (d.holding v).entries?.isSome → (checked.holding v).entries?.isSome := by
  unfold checkSection at h
  rw [Document.entry?_of_entries hentries] at h
  cases hget : get? (.new (.text name)) entries with
  | none =>
    rw [hget] at h
    cases h
    refine ⟨entries, hentries, List.Sublist.refl _, fun e he hkey => ?_, fun v hv => hv⟩
    have hne := get?_eq_none.1 hget e he
    rw [Leaf.beq_text.2 hkey] at hne
    cases hne
  | some v =>
    rw [hget] at h
    have hvalue {e : Leaf α × Value α} (he : e ∈ entries) (hkey : e.1.atom = .text name) : e.2 = v :=
      Option.some.inj ((get?_of_mem hdistinct he hkey).symm.trans hget)
    simp only [Option.map_some] at h
    split at h
    · rename_i shown hview
      cases h
      obtain ⟨section_, hsection, -⟩ := Document.entries_of_view hview
      refine ⟨entries, hentries, List.Sublist.refl _, fun e he hkey => ?_, fun v hv => hv⟩
      rw [hvalue he hkey, hsection]
      rfl
    · cases h
      refine ⟨_, Document.entries?_erase hentries _, erase_sublist, fun e he hkey => ?_,
        fun v hv => Document.isSome_entries?_erase hv _⟩
      have hne := get?_eq_none.1 (get?_erase_self hdistinct) e he
      rw [Leaf.beq_text.2 hkey] at hne
      cases hne
    · cases h

omit [Scalar α] in
/-- The sections of a document are mappings once both are checked. -/
private theorem entries_of_checkSections {path : Path} {d checked : Document α} {entries : List (Leaf α × Value α)}
    (hentries : d.entries? = some entries) (hdistinct : Distinct entries)
    (h : checkSection path "rotator" d >>= checkSection path "polar_alignment" = .ok checked) :
    ∃ kept, checked.entries? = some kept ∧ ∀ e ∈ kept, e.1.atom = rotatorKey ∨ e.1.atom = alignmentKey →
      (checked.holding e.2).entries?.isSome := by
  obtain ⟨between, hfirst, h⟩ := exists_of_bind_eq_ok h
  obtain ⟨left, hleft, hsub, hrotator, -⟩ := checkSection_cases hentries hdistinct hfirst
  obtain ⟨kept, hkept, hsub', halignment, hstay⟩ := checkSection_cases hleft (hdistinct.sublist hsub) h
  refine ⟨kept, hkept, fun e he hkey => ?_⟩
  rcases hkey with hkey | hkey
  · exact hstay _ (hrotator e (hsub'.subset he) hkey)
  · exact halignment e he hkey

omit [Scalar α] in
private theorem entries_of_sectionsOf {path : Path} {d checked : Document α}
    (hdistinct : ∀ entries, d.entries? = some entries → Distinct entries) (h : sectionsOf path d = .ok checked) :
    ∃ entries, checked.entries? = some entries ∧ ∀ e ∈ entries, e.1.atom = rotatorKey ∨ e.1.atom = alignmentKey →
      (checked.holding e.2).entries?.isSome := by
  unfold sectionsOf at h
  cases hview : d.view with
  | map shown =>
    rw [hview] at h
    obtain ⟨entries, hentries, -⟩ := Document.entries_of_view hview
    exact entries_of_checkSections hentries (hdistinct _ hentries) h
  | atom a =>
    rw [hview] at h
    cases a with
    | null =>
      have hempty := Document.entries?_holding_map d []
      change checkSection path "rotator" (d.holding (.map [])) >>= checkSection path "polar_alignment" = _ at h
      exact entries_of_checkSections hempty List.Pairwise.nil h
    | _ => cases h
  | _ =>
    rw [hview] at h
    cases h

theorem contains_defaultEntries (key : Leaf α) :
    Entries.contains key (defaultEntries : List (Leaf α × Value α)) = true ↔
      key.atom = rotatorKey ∨ key.atom = alignmentKey := by
  have hrotator : (Leaf.new rotatorKey == key) = true ↔ key.atom = rotatorKey := Leaf.text_beq
  have halignment : (Leaf.new alignmentKey == key) = true ↔ key.atom = alignmentKey := Leaf.text_beq
  rw [← hrotator, ← halignment]
  unfold Entries.contains defaultEntries Entries.get? Entries.get? Entries.get?
  cases Leaf.new rotatorKey == key <;> cases Leaf.new alignmentKey == key <;> simp

/-- Every document is arranged by loading if its keys are distinct. -/
theorem arranged_of_ofDocument {path : Path} {d config : Document α}
    (hdistinct : ∀ entries, d.entries? = some entries → Distinct entries) (h : ofDocument path d = .ok config) :
    Arranged config := by
  unfold ofDocument at h
  obtain ⟨checked, hchecked, h⟩ := exists_of_bind_eq_ok h
  cases h
  obtain ⟨entries, hentries, hsections⟩ := entries_of_sectionsOf hdistinct hchecked
  have hupper {e : Leaf α × Value α} (he : e ∈ upperEntries checked)
      (hkey : e.1.atom = rotatorKey ∨ e.1.atom = alignmentKey) : ∃ own, e.2 = .map own := by
    rw [upperEntries, hentries] at he
    obtain ⟨below, hbelow, rfl⟩ := List.mem_map.1 he
    obtain ⟨own, hown⟩ := Option.isSome_iff_exists.1 (hsections below hbelow hkey)
    refine ⟨own, ?_⟩
    show (if _ then _ else _) = _
    rw [if_pos ((contains_defaultEntries _).2 hkey), Document.opened_of_entries hown]
  obtain ⟨a, ha⟩ := arrangement_of_overlay (fun e he hkey => hupper he (.inl hkey))
    fun e he hkey => hupper he (.inr hkey)
  exact ⟨a, congrArg Tree.map ha⟩

end Defaults

end EquatorialMount.Options

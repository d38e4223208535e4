import Mathlib.Data.List.Basic
import EquatorialMount.Proofs.Document.Entries

/-!
# What an overlay keeps of its two trees

The keys of a tree are taken to be apart in each of its mappings, and equal only to themselves.  Then an overlay has at
the end of a chain of keys what the upper tree has there, laid over what the lower one has (`at?_overlay_of_some`).
Where the upper tree ends before, nothing is left if it ends in a leaf, and else the lower tree shows through
(`at?_overlay_of_leafAbove`, `at?_overlay_of_none`).  Entries are settled by the order of their keys and by what each
key has (`Entries.ext_get?`), so an overlay is laid over its lower tree, or under its upper one, without a change
(`overlay_overlay_below`, `overlay_overlay_above`).
-/

namespace EquatorialMount

/-! ### Keys that are equal only to themselves -/

namespace Entries

variable {κ τ : Type} [BEq κ] [LawfulBEq κ] {key : κ} {value : τ} {entries : List (κ × τ)}

private theorem get?_put (key k : κ) (value : τ) (entries : List (κ × τ)) :
    get? k (put key value entries) = if key == k then some value else get? k entries := by
  induction entries with
  | nil => rfl
  | cons head rest ih =>
    obtain ⟨j, v⟩ := head
    by_cases hj : j = key
    · subst hj
      rw [put, if_pos BEq.rfl]
      unfold get?
      split <;> rfl
    · rw [put, if_neg (by simpa using hj)]
      unfold get?
      rw [ih]
      by_cases hk : j = k
      · subst hk
        have hkey : ¬(key == j) = true := by simpa using Ne.symm hj
        rw [if_pos BEq.rfl, if_neg hkey, if_pos BEq.rfl]
      · have hhead : ¬(j == k) = true := by simpa using hk
        rw [if_neg hhead, if_neg hhead]

private theorem contains_iff : contains key entries = true ↔ key ∈ entries.map (·.1) := by
  rw [contains, Option.isSome_iff_ne_none, Ne, get?_eq_none]
  simp

private theorem contains_put (key k : κ) (value : τ) (entries : List (κ × τ)) :
    contains k (put key value entries) = (key == k || contains k entries) := by
  rw [contains, contains, get?_put]
  cases key == k <;> simp

/-- A key is not found again behind its place. -/
private theorem Distinct.get?_tail {key : κ} {value : τ} (h : Distinct ((key, value) :: entries)) :
    get? key entries = none := by
  refine get?_eq_none.2 fun e he => ?_
  rw [BEq.comm]
  exact (List.pairwise_cons.1 h).1 e he

/-- Entries are settled by the order of their keys and by what each key has. -/
theorem ext_get? {entries' : List (κ × τ)} (h : Distinct entries)
    (hkeys : entries.map (·.1) = entries'.map (·.1)) (hget : ∀ k, get? k entries = get? k entries') :
    entries = entries' := by
  induction entries generalizing entries' with
  | nil => exact (List.map_eq_nil_iff.1 hkeys.symm).symm
  | cons head rest ih =>
    have h' : Distinct entries' := h.of_keys hkeys.symm
    cases entries' with
    | nil => cases hkeys
    | cons head' rest' =>
      obtain ⟨k, v⟩ := head
      obtain ⟨k', v'⟩ := head'
      obtain ⟨rfl, hrest⟩ : k = k' ∧ rest.map (·.1) = rest'.map (·.1) := by simpa using hkeys
      have hvalue : v = v' := by simpa [get?] using hget k
      have htail (j : κ) : get? j rest = get? j rest' := by
        by_cases hj : k = j
        · subst hj
          rw [h.get?_tail, h'.get?_tail]
        · simpa [get?, hj] using hget j
      rw [hvalue, ih h.tail hrest htail]

end Entries

namespace Tree

open Entries

variable {κ ν : Type} [BEq κ]

/-! ### Trees whose keys are apart -/

/-- No mapping of the tree has a key twice. -/
inductive Separated : Tree κ ν → Prop
  | leaf (value : ν) : Separated (leaf value)
  | map {entries : List (κ × Tree κ ν)} (distinct : Distinct entries) (below : ∀ e ∈ entries, Separated e.2) :
    Separated (map entries)

@[simp] theorem separated_leaf (value : ν) : (leaf value : Tree κ ν).Separated := .leaf value

@[simp] theorem separated_map {entries : List (κ × Tree κ ν)} :
    (map entries).Separated ↔ Distinct entries ∧ ∀ e ∈ entries, e.2.Separated := by
  refine ⟨fun h => ?_, fun h => .map h.1 h.2⟩
  cases h with
  | map distinct below => exact ⟨distinct, below⟩

/-- The entries of a tree, none if it is a leaf. -/
def entries : Tree κ ν → List (κ × Tree κ ν)
  | leaf _ => []
  | map own => own

/-- The entries of what is below, none if that is no mapping. -/
def entriesBelow (below : Option (Tree κ ν)) : List (κ × Tree κ ν) := below.elim [] entries

namespace Separated

variable {t u : Tree κ ν} {below : Option (Tree κ ν)} {key : κ}

theorem distinct (h : t.Separated) : Distinct t.entries := by
  cases t with
  | leaf value => exact List.Pairwise.nil
  | map own => exact (separated_map.1 h).1

theorem get? (h : t.Separated) (hu : Entries.get? key t.entries = some u) : u.Separated := by
  cases t with
  | leaf value => cases hu
  | map own =>
    obtain ⟨k, hmem⟩ := mem_of_get? hu
    exact (separated_map.1 h).2 _ hmem

private theorem distinct_below (h : ∀ d ∈ below, d.Separated) : Distinct (entriesBelow below) := by
  cases below with
  | none => exact List.Pairwise.nil
  | some d => exact (h d rfl).distinct

private theorem get?_below (h : ∀ d ∈ below, d.Separated) :
    ∀ u ∈ Entries.get? key (entriesBelow below), u.Separated := by
  cases below with
  | none => exact fun u hu => absurd hu (Option.not_mem_none u)
  | some d => exact fun u hu => (h d rfl).get? hu

end Separated

/-! ### Chains of keys -/

/-- The chain of keys leads on behind a leaf. -/
def LeafAbove (t : Tree κ ν) (chain : List κ) : Prop :=
  ∃ start, start <+: chain ∧ start ≠ chain ∧ ∃ value, at? start t = some (leaf value)

private theorem at?_cons (key : κ) (rest : List κ) (t : Tree κ ν) :
    at? (key :: rest) t = (Entries.get? key t.entries).bind (at? rest) := by
  cases t with
  | leaf value => rfl
  | map entries =>
    rw [Tree.at?, Tree.entries]
    cases Entries.get? key entries <;> rfl

private theorem bind_at?_cons (key : κ) (rest : List κ) (below : Option (Tree κ ν)) :
    below.bind (at? (key :: rest)) = (Entries.get? key (entriesBelow below)).bind (at? rest) := by
  cases below with
  | none => rfl
  | some d => exact at?_cons key rest d

theorem Separated.at? {t u : Tree κ ν} (h : t.Separated) {chain : List κ} (hu : Tree.at? chain t = some u) :
    u.Separated := by
  induction chain generalizing t with
  | nil => exact Option.some.inj hu ▸ h
  | cons key rest ih =>
    rw [at?_cons, Option.bind_eq_some_iff] at hu
    obtain ⟨v, hv, hu⟩ := hu
    exact ih (h.get? hv) hu

private theorem not_leafAbove_nil (t : Tree κ ν) : ¬LeafAbove t [] := by
  rintro ⟨start, hstart, hne, -⟩
  exact hne (List.prefix_nil.1 hstart)

private theorem leafAbove_leaf_cons (value : ν) (key : κ) (rest : List κ) :
    LeafAbove (leaf value : Tree κ ν) (key :: rest) :=
  ⟨[], List.nil_prefix, List.cons_ne_nil _ _ |>.symm, value, rfl⟩

private theorem leafAbove_map_cons {key : κ} {rest : List κ} {entries : List (κ × Tree κ ν)} :
    LeafAbove (map entries) (key :: rest) ↔ ∃ t, Entries.get? key entries = some t ∧ LeafAbove t rest := by
  constructor
  · rintro ⟨start, hstart, hne, value, hvalue⟩
    cases start with
    | nil => cases hvalue
    | cons k start =>
      obtain ⟨rfl, hrest⟩ := List.cons_prefix_cons.1 hstart
      rw [at?_cons, Option.bind_eq_some_iff] at hvalue
      obtain ⟨t, ht, hvalue⟩ := hvalue
      exact ⟨t, ht, start, hrest, fun h => hne (h ▸ rfl), value, hvalue⟩
  · rintro ⟨t, ht, start, hstart, hne, value, hvalue⟩
    refine ⟨key :: start, List.cons_prefix_cons.2 ⟨rfl, hstart⟩, fun h => hne (List.cons.inj h).2, value, ?_⟩
    rw [at?_cons]
    exact Option.bind_eq_some_iff.2 ⟨t, ht, hvalue⟩

/-! ### One mapping over another -/

section Overlay

variable {lower upper : List (κ × Tree κ ν)} {below : Option (Tree κ ν)} {t u : Tree κ ν}

/-- Where there is no mapping below, the upper one is laid over no entries. -/
private theorem overlay_eq_map (h : Distinct upper) (below : Option (Tree κ ν)) :
    overlay below (map upper) = map (overlayEntries (entriesBelow below) upper) := by
  have hempty : overlayEntries [] upper = upper := overlayEntries_append h
  cases below with
  | none => rw [overlay_none, entriesBelow, Option.elim_none, hempty]
  | some d =>
    cases d with
    | leaf value => rw [overlay_leaf, entriesBelow, Option.elim_some, entries, hempty]
    | map lower => rw [overlay_map, entriesBelow, Option.elim_some, entries]

/-- Only a leaf leaves a leaf. -/
private theorem eq_leaf_of_overlay {value : ν} (h : overlay below t = leaf value) : t = leaf value := by
  cases t with
  | leaf own => rwa [overlay] at h
  | map own =>
    rcases below with _ | ⟨_⟩ | lower
    · rwa [overlay_none] at h
    · rwa [overlay_leaf] at h
    · rw [overlay_map] at h
      cases h

variable [LawfulBEq κ]

/-- A key has what the upper mapping has, laid over what the lower one has. -/
private theorem get?_overlayEntries (h : Distinct upper) (key : κ) :
    Entries.get? key (overlayEntries lower upper) =
      match Entries.get? key upper with
      | some t => some (overlay (Entries.get? key lower) t)
      | none => Entries.get? key lower := by
  induction upper generalizing lower with
  | nil => rfl
  | cons head rest ih =>
    obtain ⟨k, t⟩ := head
    rw [overlayEntries, overlayEntry, ih h.tail, get?_put]
    by_cases hk : k = key
    · subst hk
      have hself : (k == k) = true := BEq.rfl
      rw [h.get?_tail, Entries.get?, if_pos hself, if_pos hself]
    · have hne : ¬(k == key) = true := by simpa using hk
      rw [Entries.get?, if_neg hne, if_neg hne]

private theorem contains_overlayEntries (h : Distinct upper) (key : κ) :
    contains key (overlayEntries lower upper) = (contains key lower || contains key upper) := by
  rw [contains, get?_overlayEntries h, contains, contains]
  cases Entries.get? key upper <;> simp

/-- The keys of the lower mapping stay in front, and the new ones of the upper mapping follow. -/
private theorem keys_overlayEntries (h : Distinct upper) :
    (overlayEntries lower upper).map (·.1) =
      lower.map (·.1) ++ (upper.map (·.1)).filter (!contains · lower) := by
  induction upper generalizing lower with
  | nil => simp [overlayEntries]
  | cons head rest ih =>
    obtain ⟨k, t⟩ := head
    have hnew {v : Tree κ ν} : (rest.map (·.1)).filter (!contains · (put k v lower)) =
        (rest.map (·.1)).filter (!contains · lower) := by
      refine List.filter_congr fun j hj => ?_
      obtain ⟨e, he, rfl⟩ := List.mem_map.1 hj
      rw [contains_put, (List.pairwise_cons.1 h).1 e he, Bool.false_or]
    rw [overlayEntries, overlayEntry, ih h.tail, hnew, List.map_cons]
    cases hk : Entries.get? k lower with
    | none => simp [put_of_none hk, contains, hk]
    | some t' => simp [keys_put (hk ▸ Option.some_ne_none t'), contains, hk]

/-- There is no new key among those of a mapping that are all there already. -/
private theorem newKeys_eq_nil (h : ∀ key, contains key upper = true → contains key lower = true) :
    (upper.map (·.1)).filter (!contains · lower) = [] := by
  refine List.filter_eq_nil_iff.2 fun key hkey => ?_
  rw [h key (contains_iff.2 hkey)]
  exact Bool.false_ne_true

/-! ### The end of a chain of keys -/

/-- One step into a mapping that is laid over another tree. -/
private theorem at?_overlay_cons (h : (map upper).Separated) (below : Option (Tree κ ν)) (key : κ) (rest : List κ) :
    at? (key :: rest) (overlay below (map upper)) =
      match Entries.get? key upper with
      | some t => at? rest (overlay (Entries.get? key (entriesBelow below)) t)
      | none => below.bind (at? (key :: rest)) := by
  have hdistinct : Distinct upper := h.distinct
  rw [overlay_eq_map hdistinct, at?_cons, entries, get?_overlayEntries hdistinct, bind_at?_cons]
  cases Entries.get? key upper <;> rfl

/-- What the upper tree has is laid over what the lower one has there. -/
theorem at?_overlay_of_some (h : t.Separated) {chain : List κ} (hu : at? chain t = some u) :
    at? chain (overlay below t) = some (overlay (below.bind (at? chain)) u) := by
  induction chain generalizing below t with
  | nil =>
    cases hu
    cases below <;> rfl
  | cons key rest ih =>
    cases t with
    | leaf value => cases hu
    | map upper =>
      rw [at?_cons, entries, Option.bind_eq_some_iff] at hu
      obtain ⟨v, hv, hu⟩ := hu
      rw [at?_overlay_cons h, hv, bind_at?_cons]
      exact ih (h.get? hv) hu

/-- Where the upper tree has nothing and no leaf is in the way, the lower one shows through. -/
theorem at?_overlay_of_none (h : t.Separated) {chain : List κ} (hnone : at? chain t = none)
    (habove : ¬LeafAbove t chain) : at? chain (overlay below t) = below.bind (at? chain) := by
  induction chain generalizing below t with
  | nil => cases hnone
  | cons key rest ih =>
    cases t with
    | leaf value => exact absurd (leafAbove_leaf_cons value key rest) habove
    | map upper =>
      rw [at?_overlay_cons h]
      cases hv : Entries.get? key upper with
      | none => rfl
      | some v =>
        rw [at?_cons, entries, hv] at hnone
        rw [bind_at?_cons]
        exact ih (h.get? hv) hnone fun hleaf => habove (leafAbove_map_cons.2 ⟨v, hv, hleaf⟩)

/-- Behind a leaf of the upper tree there is nothing. -/
theorem at?_overlay_of_leafAbove (h : t.Separated) {chain : List κ} (habove : LeafAbove t chain) :
    at? chain (overlay below t) = none := by
  induction chain generalizing below t with
  | nil => exact absurd habove (not_leafAbove_nil t)
  | cons key rest ih =>
    cases t with
    | leaf value => rfl
    | map upper =>
      obtain ⟨v, hv, hleaf⟩ := leafAbove_map_cons.1 habove
      rw [at?_overlay_cons h, hv]
      exact ih (h.get? hv) hleaf

/-! ### Overlays that change nothing -/

/-- A tree that is laid over what it is laid over already changes nothing. -/
theorem overlay_overlay_above (hbelow : ∀ d ∈ below, d.Separated) (h : t.Separated) :
    overlay (some (overlay below t)) t = overlay below t := by
  induction h generalizing below with
  | leaf value => simp [overlay]
  | @map upper hdistinct _ ih =>
    have hmerged : Distinct (overlayEntries (entriesBelow below) upper) :=
      distinct_overlayEntries (Separated.distinct_below hbelow)
    rw [overlay_eq_map hdistinct below, overlay_map]
    refine congrArg map (ext_get? (distinct_overlayEntries hmerged) ?_ fun key => ?_)
    · have hnew : (upper.map (·.1)).filter (!contains · (overlayEntries (entriesBelow below) upper)) = [] :=
        newKeys_eq_nil fun key hkey => by rw [contains_overlayEntries hdistinct, hkey, Bool.or_true]
      rw [keys_overlayEntries hdistinct, hnew, List.append_nil]
    · rw [get?_overlayEntries hdistinct, get?_overlayEntries hdistinct]
      cases hv : Entries.get? key upper with
      | none => rfl
      | some v =>
        obtain ⟨k, hmem⟩ := mem_of_get? hv
        exact congrArg some (ih _ hmem (Separated.get?_below hbelow))

/-- A tree laid over itself is that tree. -/
private theorem overlay_self (h : t.Separated) : overlay (some t) t = t := by
  have hnone : ∀ d ∈ (none : Option (Tree κ ν)), d.Separated := fun d hd => absurd hd (Option.not_mem_none d)
  simpa using overlay_overlay_above hnone h

/-- A tree that is laid under what it is laid under already changes nothing. -/
theorem overlay_overlay_below (hbelow : ∀ d ∈ below, d.Separated) (h : t.Separated) :
    overlay below (overlay below t) = overlay below t := by
  induction h generalizing below with
  | leaf value => simp [overlay]
  | @map upper hdistinct _ ih =>
    have hmerged : Distinct (overlayEntries (entriesBelow below) upper) :=
      distinct_overlayEntries (Separated.distinct_below hbelow)
    rw [overlay_eq_map hdistinct, overlay_eq_map hmerged]
    refine congrArg map (ext_get? (distinct_overlayEntries (Separated.distinct_below hbelow)) ?_ fun key => ?_)
    · have hnew : ((entriesBelow below).map (·.1)).filter (!contains · (entriesBelow below)) = [] :=
        newKeys_eq_nil fun _ hkey => hkey
      rw [keys_overlayEntries hmerged, keys_overlayEntries hdistinct, List.filter_append, hnew, List.nil_append,
        List.filter_filter]
      simp only [Bool.and_self]
    · rw [get?_overlayEntries hmerged, get?_overlayEntries hdistinct]
      cases hv : Entries.get? key upper with
      | none =>
        cases hw : Entries.get? key (entriesBelow below) with
        | none => rfl
        | some w => exact congrArg some (overlay_self (Separated.get?_below hbelow w hw))
      | some v =>
        obtain ⟨k, hmem⟩ := mem_of_get? hv
        exact congrArg some (ih _ hmem (Separated.get?_below hbelow))

/-! ### The laws together -/

/-- One mapping laid over another, told chain by chain.  A leaf of the upper one stays.  A leaf of the lower one stays
where the upper one has nothing and does not end in a leaf before; anywhere else there is what the upper one has.  There
are no other leaves.  Where both have mappings, the keys of the lower one are followed by the new ones of the upper one.
No entries change nothing, nor do the lower entries themselves, and what comes of an overlay is laid over its lower part
and under its upper part without a change. -/
theorem overlayEntries_chains (hlower : (map lower).Separated) (hupper : (map upper).Separated) :
    (∀ chain value, at? chain (map upper) = some (leaf value) →
      at? chain (map (overlayEntries lower upper)) = some (leaf value)) ∧
    (∀ chain value, at? chain (map lower) = some (leaf value) →
      (at? chain (map upper) = none ∧ ¬LeafAbove (map upper) chain →
        at? chain (map (overlayEntries lower upper)) = some (leaf value)) ∧
      (¬(at? chain (map upper) = none ∧ ¬LeafAbove (map upper) chain) →
        at? chain (map (overlayEntries lower upper)) = at? chain (map upper))) ∧
    (∀ chain value, at? chain (map (overlayEntries lower upper)) = some (leaf value) →
      at? chain (map upper) = some (leaf value) ∨
        at? chain (map lower) = some (leaf value) ∧ at? chain (map upper) = none ∧ ¬LeafAbove (map upper) chain) ∧
    (∀ chain below above, at? chain (map lower) = some (map below) → at? chain (map upper) = some (map above) →
      at? chain (map (overlayEntries lower upper)) = some (map (overlayEntries below above)) ∧
        (overlayEntries below above).map (·.1) = below.map (·.1) ++ (above.map (·.1)).filter (!contains · below)) ∧
    overlayEntries lower [] = lower ∧ overlayEntries lower lower = lower ∧
    overlayEntries lower (overlayEntries lower upper) = overlayEntries lower upper ∧
    overlayEntries (overlayEntries lower upper) upper = overlayEntries lower upper := by
  have hbelow : ∀ d ∈ some (map lower), d.Separated := fun d hd => Option.some.inj hd ▸ hlower
  have hsome {chain : List κ} {u : Tree κ ν} (hu : at? chain (map upper) = some u) :
      at? chain (map (overlayEntries lower upper)) = some (overlay (at? chain (map lower)) u) := by
    rw [← overlay_map]
    exact at?_overlay_of_some hupper hu
  have hnone {chain : List κ} (hnothing : at? chain (map upper) = none) (habove : ¬LeafAbove (map upper) chain) :
      at? chain (map (overlayEntries lower upper)) = at? chain (map lower) := by
    rw [← overlay_map]
    exact at?_overlay_of_none hupper hnothing habove
  have hleaf {chain : List κ} (habove : LeafAbove (map upper) chain) :
      at? chain (map (overlayEntries lower upper)) = none := by
    rw [← overlay_map]
    exact at?_overlay_of_leafAbove hupper habove
  refine ⟨fun chain value hvalue => ?_, fun chain value hvalue => ⟨fun h => ?_, fun h => ?_⟩,
    fun chain value hvalue => ?_, fun chain below above hlow hup => ⟨?_, ?_⟩, ?_, ?_, ?_, ?_⟩
  · rw [hsome hvalue, overlay]
  · rw [hnone h.1 h.2, hvalue]
  · cases hu : at? chain (map upper) with
    | some u => rw [hsome hu, hvalue, overlay_leaf]
    | none => exact hleaf (not_not.1 fun habove => h ⟨hu, habove⟩)
  · cases hu : at? chain (map upper) with
    | some u =>
      rw [hsome hu] at hvalue
      exact .inl (congrArg some (eq_leaf_of_overlay (Option.some.inj hvalue)))
    | none =>
      by_cases habove : LeafAbove (map upper) chain
      · rw [hleaf habove] at hvalue
        cases hvalue
      · exact .inr ⟨hnone hu habove ▸ hvalue, rfl, habove⟩
  · rw [hsome hup, hlow, overlay_map]
  · exact keys_overlayEntries (hupper.at? hup).distinct
  · rfl
  · simpa using overlay_self hlower
  · simpa using overlay_overlay_below hbelow hupper
  · simpa using overlay_overlay_above hbelow hupper

end Overlay

/-- What a mapping and a leaf can be laid over: a mapping, a leaf or nothing. -/
def mountTree : List (String × Tree String Nat) :=
  [("rotator", map [("offset", leaf 0), ("sides", map [("last", leaf 1)])]), ("site", leaf 5),
    ("dome", map [("slit", leaf 2)])]

/-- A mapping and a leaf for each of these. -/
def hillTree : List (String × Tree String Nat) :=
  [("dome", leaf 7), ("rotator", map [("sides", map [("next", leaf 4), ("last", leaf 3)]), ("camera", leaf 6)]),
    ("guider", map [("port", leaf 9)]), ("site", map [("name", leaf 8)])]

theorem overlayEntries_chains_hill :
    (map mountTree).Separated ∧ (map hillTree).Separated ∧
      at? ["rotator", "offset"] (map (overlayEntries mountTree hillTree)) = some (leaf 0) ∧
      at? ["rotator", "sides", "last"] (map (overlayEntries mountTree hillTree)) = some (leaf 3) ∧
      at? ["dome", "slit"] (map (overlayEntries mountTree hillTree)) = none ∧
      (overlayEntries mountTree hillTree).map (·.1) = ["rotator", "site", "dome", "guider"] ∧
      overlayEntries mountTree (overlayEntries mountTree hillTree) = overlayEntries mountTree hillTree := by
  have hmount : (map mountTree).Separated := by simp [mountTree, Distinct]
  have hhill : (map hillTree).Separated := by simp [hillTree, Distinct]
  obtain ⟨hupper, hlower, -, hkeys, -, -, hbelow, -⟩ := overlayEntries_chains hmount hhill
  refine ⟨hmount, hhill, ?_, ?_, ?_, ?_, hbelow⟩
  · refine (hlower ["rotator", "offset"] 0 rfl).1 ⟨rfl, ?_⟩
    simp [leafAbove_map_cons, hillTree, Entries.get?, not_leafAbove_nil]
  · exact hupper _ _ rfl
  · refine (hlower ["dome", "slit"] 2 rfl).2 fun h => h.2 ?_
    simp [leafAbove_map_cons, hillTree, Entries.get?, leafAbove_leaf_cons]
  · exact (hkeys [] _ _ rfl rfl).2.trans (by decide)

end Tree

end EquatorialMount

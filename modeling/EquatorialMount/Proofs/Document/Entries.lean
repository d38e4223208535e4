import EquatorialMount.Document.Tree

/-!
# Entries and their overlay

Entries have each key once, and giving a key a value keeps it that way.  Nothing is asked of the equality of keys for
that: an entry is only added if no key that is there counts as its key.  An overlay can be told key by key: the first
key below takes what the upper entries with that key make of its value, and the others go on to the rest
(`overlayEntries_cons`); entries with keys of their own are added as they are (`overlayEntries_append`).
-/

namespace EquatorialMount

namespace Entries

variable {κ τ : Type} [BEq κ] {key : κ} {value : τ} {entries : List (κ × τ)}

/-- No key comes up twice. -/
def Distinct (entries : List (κ × τ)) : Prop := entries.Pairwise fun e f => (e.1 == f.1) = false

theorem Distinct.tail {head : κ × τ} (h : Distinct (head :: entries)) : Distinct entries := List.Pairwise.of_cons h

theorem get?_eq_none : get? key entries = none ↔ ∀ e ∈ entries, (e.1 == key) = false := by
  induction entries with
  | nil => simp [get?]
  | cons head rest ih =>
    obtain ⟨k, v⟩ := head
    unfold get?
    cases h : k == key <;> simp [h, ih]

theorem mem_of_get? (h : get? key entries = some value) : ∃ k, (k, value) ∈ entries := by
  induction entries with
  | nil => cases h
  | cons head rest ih =>
    obtain ⟨k, v⟩ := head
    unfold get? at h
    split at h
    · cases h
      exact ⟨k, List.mem_cons_self⟩
    · obtain ⟨k', hk'⟩ := ih h
      exact ⟨k', List.mem_cons_of_mem _ hk'⟩

theorem get?_put_self (hkey : (key == key) = true) : get? key (put key value entries) = some value := by
  induction entries with
  | nil => simp [put, get?, hkey]
  | cons head rest ih =>
    obtain ⟨k, v⟩ := head
    unfold put
    cases h : k == key <;> simp [get?, h, ih]

theorem put_of_none (h : get? key entries = none) : put key value entries = entries ++ [(key, value)] := by
  induction entries with
  | nil => rfl
  | cons head rest ih =>
    obtain ⟨k, v⟩ := head
    unfold get? at h
    cases hk : k == key with
    | true => simp [hk] at h
    | false => simp_all [put]

/-- A key that has a value keeps its place. -/
theorem keys_put (h : get? key entries ≠ none) : (put key value entries).map (·.1) = entries.map (·.1) := by
  induction entries with
  | nil => simp [get?] at h
  | cons head rest ih =>
    obtain ⟨k, v⟩ := head
    unfold put
    unfold get? at h
    cases hk : k == key <;> simp_all

private theorem distinct_iff : Distinct entries ↔ (entries.map (·.1)).Pairwise fun k l => (k == l) = false := by
  rw [List.pairwise_map]
  rfl

theorem Distinct.of_keys {υ : Type} {entries' : List (κ × υ)} (h : Distinct entries)
    (hkeys : entries'.map (·.1) = entries.map (·.1)) : Distinct entries' := by
  rw [distinct_iff, hkeys]
  exact distinct_iff.1 h

theorem Distinct.put (h : Distinct entries) : Distinct (put key value entries) := by
  by_cases hkey : get? key entries = none
  · rw [put_of_none hkey]
    refine List.pairwise_append.2 ⟨h, List.pairwise_singleton _ _, ?_⟩
    simpa using get?_eq_none.1 hkey
  · exact h.of_keys (keys_put hkey)

theorem erase_sublist : (erase key entries).Sublist entries := by
  induction entries with
  | nil => exact List.Sublist.slnil
  | cons head rest ih =>
    obtain ⟨k, v⟩ := head
    unfold erase
    split
    · exact List.sublist_cons_self _ _
    · exact ih.cons_cons _

theorem erase_map {υ : Type} (f : τ → υ) (entries : List (κ × τ)) :
    erase key (entries.map fun (k, v) => (k, f v)) = (erase key entries).map fun (k, v) => (k, f v) := by
  induction entries with
  | nil => rfl
  | cons head rest ih =>
    obtain ⟨k, v⟩ := head
    simp only [List.map_cons, Entries.erase, ih]
    split <;> rfl

end Entries

namespace Tree

open Entries

variable {κ ν : Type} [BEq κ] {lower upper : List (κ × Tree κ ν)}

@[simp] theorem overlay_none (t : Tree κ ν) : overlay none t = t := by
  cases t <;> simp [overlay]

@[simp] theorem overlay_leaf (value : ν) (t : Tree κ ν) : overlay (some (leaf value)) t = t := by
  cases t <;> simp [overlay]

@[simp] theorem overlay_map (lower upper : List (κ × Tree κ ν)) :
    overlay (some (map lower)) (map upper) = map (overlayEntries lower upper) := by
  simp [overlay]

theorem overlayEntries_append (h : Distinct (lower ++ upper)) : overlayEntries lower upper = lower ++ upper := by
  induction upper generalizing lower with
  | nil => simp [overlayEntries]
  | cons head rest ih =>
    obtain ⟨key, value⟩ := head
    have hnone : get? key lower = none := by
      refine get?_eq_none.2 fun e he => ?_
      exact (List.pairwise_append.1 h).2.2 e he (key, value) List.mem_cons_self
    have happend : lower ++ (key, value) :: rest = (lower ++ [(key, value)]) ++ rest := by simp
    rw [overlayEntries, overlayEntry, hnone, overlay_none, put_of_none hnone, ih (happend ▸ h), happend]

theorem distinct_overlayEntries (h : Distinct lower) : Distinct (overlayEntries lower upper) := by
  induction upper generalizing lower with
  | nil => simpa [overlayEntries] using h
  | cons head rest ih =>
    obtain ⟨key, value⟩ := head
    rw [overlayEntries, overlayEntry]
    exact ih h.put

/-- The first key below stays in front. -/
theorem overlayEntries_cons (key : κ) (t : Tree κ ν) :
    overlayEntries ((key, t) :: lower) upper =
      (key, (upper.filter (key == ·.1)).foldl (fun t e => overlay (some t) e.2) t) ::
        overlayEntries lower (upper.filter (!key == ·.1)) := by
  induction upper generalizing lower t with
  | nil => simp [overlayEntries]
  | cons head rest ih =>
    obtain ⟨k, v⟩ := head
    rw [overlayEntries, overlayEntry]
    cases hk : key == k with
    | true => simp [Entries.put, Entries.get?, hk, ih]
    | false => simp [Entries.put, Entries.get?, hk, ih, overlayEntries, overlayEntry]

/-- A key that comes first both below and above, and never again above. -/
theorem overlayEntries_head {key k : κ} (t v : Tree κ ν) (hk : (key == k) = true)
    (hupper : ∀ e ∈ upper, (key == e.1) = false) :
    overlayEntries ((key, t) :: lower) ((k, v) :: upper) = (key, overlay (some t) v) :: overlayEntries lower upper := by
  have hnone : upper.filter (key == ·.1) = [] := by
    rw [List.filter_eq_nil_iff]
    intro e he
    simp [hupper e he]
  have hall : upper.filter (!key == ·.1) = upper := by
    rw [List.filter_eq_self]
    intro e he
    simp [hupper e he]
  rw [overlayEntries_cons, List.filter_cons_of_pos (by simpa using hk), List.filter_cons_of_neg (by simp [hk]), hnone,
    hall]
  rfl

end Tree

end EquatorialMount

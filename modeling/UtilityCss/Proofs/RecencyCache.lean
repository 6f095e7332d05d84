import UtilityCss.RecencyCache

/-!
# Keys and entries of caches

What each operation of a cache does to its keys and to its entries.  Finding a
key and storing it differ in their values only: both move the key to the end,
and only a new key can displace another one.
-/

namespace UtilityCss.RecencyCache

variable {κ : Type u} {ν : Type v}

@[simp]
theorem keys_empty (capacity : Nat) :
    (empty capacity : RecencyCache κ ν).keys = [] :=
  rfl

@[simp]
theorem keys_clear (cache : RecencyCache κ ν) : cache.clear.keys = [] :=
  rfl

@[simp]
theorem length_keys (cache : RecencyCache κ ν) :
    cache.keys.length = cache.size :=
  List.length_map _

@[simp]
theorem keys_evictOldest (cache : RecencyCache κ ν) :
    cache.evictOldest.keys = cache.keys.tail :=
  List.map_tail

@[simp]
theorem keys_push (cache : RecencyCache κ ν) (key : κ) (value : ν) :
    (cache.push key value).keys = cache.keys ++ [key] :=
  List.map_append

variable [DecidableEq κ]

@[simp]
theorem keys_erase (cache : RecencyCache κ ν) (key : κ) :
    (cache.erase key).keys = cache.keys.filter (· ≠ key) := by
  rw [keys, keys, List.filter_map]
  rfl

theorem contains_iff (cache : RecencyCache κ ν) (key : κ) :
    cache.contains key = true ↔ key ∈ cache.keys := by
  simp [contains, keys]

/-! ## Looking at a key -/

theorem peek?_eq_none_iff (cache : RecencyCache κ ν) (key : κ) :
    cache.peek? key = none ↔ key ∉ cache.keys := by
  rw [peek?, Option.map_eq_none_iff, List.find?_eq_none]
  constructor
  · intro unfound member
    obtain ⟨entry, stored, same⟩ := List.mem_map.mp member
    exact unfound entry stored (by simpa using same)
  · intro absent entry stored same
    exact absent (List.mem_map.mpr ⟨entry, stored, by simpa using same⟩)

theorem contains_eq_isSome_peek? (cache : RecencyCache κ ν) (key : κ) :
    cache.contains key = (cache.peek? key).isSome := by
  cases found : cache.peek? key with
  | none =>
      have absent := (cache.peek?_eq_none_iff key).mp found
      exact Bool.eq_false_iff.mpr fun present =>
        absent ((cache.contains_iff key).mp present)
  | some value =>
      refine (cache.contains_iff key).mpr (Decidable.byContradiction ?_)
      intro absent
      rw [(cache.peek?_eq_none_iff key).mpr absent] at found
      cases found

theorem mem_entries_of_peek? {cache : RecencyCache κ ν} {key : κ} {value : ν}
    (found : cache.peek? key = some value) : (key, value) ∈ cache.entries := by
  obtain ⟨⟨other, kept⟩, first, equality⟩ :=
    Option.map_eq_some_iff.mp found
  have same : other = key := by
    simpa using List.find?_some first
  have member := List.mem_of_find?_eq_some first
  cases same
  cases equality
  exact member

theorem get?_fst (cache : RecencyCache κ ν) (key : κ) :
    (cache.get? key).1 = cache.peek? key := by
  rw [get?]
  cases found : cache.peek? key with
  | none => rfl
  | some value => rfl

theorem get?_of_not_mem {cache : RecencyCache κ ν} {key : κ}
    (absent : key ∉ cache.keys) : cache.get? key = (none, cache) := by
  rw [get?, (cache.peek?_eq_none_iff key).mpr absent]

theorem get?_of_mem {cache : RecencyCache κ ν} {key : κ}
    (present : key ∈ cache.keys) :
    ∃ value, (key, value) ∈ cache.entries ∧
      cache.get? key = (some value, (cache.erase key).push key value) := by
  cases found : cache.peek? key with
  | none => exact absurd present ((cache.peek?_eq_none_iff key).mp found)
  | some value =>
      refine ⟨value, mem_entries_of_peek? found, ?_⟩
      rw [get?, found]

/-! ## Touching a key -/

/-- The keys of a cache with room for so many after one of them, or a new one,
is used. -/
def touchKeys (capacity : Nat) (keys : List κ) (key : κ) : List κ :=
  if key ∈ keys then keys.filter (· ≠ key) ++ [key]
  else if capacity ≤ keys.length then keys.tail ++ [key]
  else keys ++ [key]

theorem length_touchKeys_le {capacity : Nat} (room : 0 < capacity)
    {keys : List κ} (fits : keys.length ≤ capacity) (key : κ) :
    (touchKeys capacity keys key).length ≤ capacity := by
  rw [touchKeys]
  split
  · rename_i present
    have shorter : (keys.filter (· ≠ key)).length < keys.length :=
      List.length_filter_lt_length_iff_exists.mpr
        ⟨key, present, by simp⟩
    rw [List.length_append, List.length_singleton]
    omega
  · split
    · rw [List.length_append, List.length_tail, List.length_singleton]
      omega
    · rw [List.length_append, List.length_singleton]
      omega

theorem keys_set (cache : RecencyCache κ ν) (key : κ) (value : ν) :
    (cache.set key value).keys = touchKeys cache.capacity cache.keys key := by
  rw [set, touchKeys]
  by_cases present : key ∈ cache.keys
  · rw [if_pos ((cache.contains_iff key).mpr present), if_pos present,
      keys_push, keys_erase]
  · have absent : ¬ cache.contains key = true := fun found =>
      present ((cache.contains_iff key).mp found)
    rw [if_neg absent, if_neg present, length_keys]
    by_cases full : cache.capacity ≤ cache.size
    · rw [if_pos full, if_pos full, keys_push, keys_evictOldest]
    · rw [if_neg full, if_neg full, keys_push]

theorem keys_get?_of_mem {cache : RecencyCache κ ν} {key : κ}
    (present : key ∈ cache.keys) :
    (cache.get? key).2.keys = touchKeys cache.capacity cache.keys key := by
  obtain ⟨value, _, found⟩ := get?_of_mem present
  rw [found, touchKeys, if_pos present, keys_push, keys_erase]

@[simp]
theorem capacity_set (cache : RecencyCache κ ν) (key : κ) (value : ν) :
    (cache.set key value).capacity = cache.capacity := by
  rw [set]
  split
  · rfl
  · split
    · rfl
    · rfl

@[simp]
theorem capacity_get? (cache : RecencyCache κ ν) (key : κ) :
    (cache.get? key).2.capacity = cache.capacity := by
  by_cases present : key ∈ cache.keys
  · obtain ⟨value, _, found⟩ := get?_of_mem present
    rw [found]
    rfl
  · rw [get?_of_not_mem present]

theorem size_set_le {cache : RecencyCache κ ν} (room : 0 < cache.capacity)
    (fits : cache.size ≤ cache.capacity) (key : κ) (value : ν) :
    (cache.set key value).size ≤ cache.capacity := by
  rw [← length_keys] at fits
  rw [← length_keys, keys_set]
  exact length_touchKeys_le room fits key

theorem size_get?_le {cache : RecencyCache κ ν} (room : 0 < cache.capacity)
    (fits : cache.size ≤ cache.capacity) (key : κ) :
    (cache.get? key).2.size ≤ cache.capacity := by
  by_cases present : key ∈ cache.keys
  · rw [← length_keys] at fits
    rw [← length_keys, keys_get?_of_mem present]
    exact length_touchKeys_le room fits key
  · rwa [get?_of_not_mem present]

/-! ## Entries after an operation -/

theorem mem_entries_of_get? {cache : RecencyCache κ ν} {key : κ}
    {entry : κ × ν} (member : entry ∈ (cache.get? key).2.entries) :
    entry ∈ cache.entries := by
  by_cases present : key ∈ cache.keys
  · obtain ⟨value, stored, found⟩ := get?_of_mem present
    rw [found] at member
    rcases List.mem_append.mp member with kept | moved
    · exact (List.mem_filter.mp kept).1
    · rw [List.mem_singleton.mp moved]
      exact stored
  · rwa [get?_of_not_mem present] at member

/-- Storing a key brings its entry and none other; an old entry that is still
there has another key. -/
theorem mem_entries_of_set {cache : RecencyCache κ ν} {key : κ} {value : ν}
    {entry : κ × ν} (member : entry ∈ (cache.set key value).entries) :
    entry = (key, value) ∨ (entry ∈ cache.entries ∧ entry.1 ≠ key) := by
  rw [set] at member
  by_cases present : cache.contains key = true
  · rw [if_pos present] at member
    rcases List.mem_append.mp member with kept | added
    · obtain ⟨stored, other⟩ := List.mem_filter.mp kept
      exact Or.inr ⟨stored, by simpa using other⟩
    · exact Or.inl (List.mem_singleton.mp added)
  · have other : ∀ old ∈ cache.entries, old.1 ≠ key := by
      intro old stored same
      exact present ((cache.contains_iff key).mpr
        (same ▸ List.mem_map_of_mem stored))
    rw [if_neg present] at member
    by_cases full : cache.capacity ≤ cache.size
    · rw [if_pos full] at member
      rcases List.mem_append.mp member with kept | added
      · have stored := List.mem_of_mem_tail kept
        exact Or.inr ⟨stored, other entry stored⟩
      · exact Or.inl (List.mem_singleton.mp added)
    · rw [if_neg full] at member
      rcases List.mem_append.mp member with kept | added
      · exact Or.inr ⟨kept, other entry kept⟩
      · exact Or.inl (List.mem_singleton.mp added)

end UtilityCss.RecencyCache

import UtilityCss.Proofs.RecencyCache.ClosedForm

/-!
# A larger cache holds more

Two caches of different capacity that are used alike part soon: a key may be
found in the larger one and missed in the smaller one, and a new key may
displace another in one of them only.  Still the smaller cache never holds an
entry that the larger one does not, and those that both hold stand in the same
order.  What makes this last is that a cache with room left has forgotten
nothing, so the two agree until the smaller one is full.
-/

namespace UtilityCss.RecencyCache

variable {κ : Type u} {ν : Type v} [DecidableEq κ]

/-! ## Entries after storing a key -/

section Storing

variable {cache : RecencyCache κ ν} {key : κ}

theorem entries_set_of_mem (present : key ∈ cache.keys) (value : ν) :
    (cache.set key value).entries = (cache.erase key).entries ++ [(key, value)] := by
  rw [set, if_pos ((cache.contains_iff key).mpr present)]
  rfl

theorem set_of_not_mem (absent : key ∉ cache.keys) (value : ν) :
    cache.set key value =
      if cache.capacity ≤ cache.size then cache.evictOldest.push key value
      else cache.push key value := by
  rw [set, if_neg (fun found => absent ((cache.contains_iff key).mp found))]

theorem entries_set_of_full (absent : key ∉ cache.keys)
    (full : cache.capacity ≤ cache.size) (value : ν) :
    (cache.set key value).entries = cache.entries.tail ++ [(key, value)] := by
  rw [set_of_not_mem absent, if_pos full]
  rfl

theorem entries_set_of_room (absent : key ∉ cache.keys)
    (room : ¬ cache.capacity ≤ cache.size) (value : ν) :
    (cache.set key value).entries = cache.entries ++ [(key, value)] := by
  rw [set_of_not_mem absent, if_neg room]
  rfl

theorem entries_erase_of_not_mem (absent : key ∉ cache.keys) :
    (cache.erase key).entries = cache.entries := by
  rw [erase, List.filter_eq_self]
  intro entry stored
  have different : entry.1 ≠ key := fun same =>
    absent (same ▸ List.mem_map_of_mem stored)
  exact decide_eq_true different

end Storing

/-! ## Keys stay distinct, and caches do not shrink -/

theorem nodup_touchKeys {keys : List κ} (distinct : keys.Nodup)
    (capacity : Nat) (key : κ) : (touchKeys capacity keys key).Nodup := by
  rw [touchKeys]
  split
  · rw [List.nodup_append_comm, List.singleton_append, List.nodup_cons]
    exact ⟨by simp, distinct.filter _⟩
  · rename_i absent
    split
    · rw [List.nodup_append_comm, List.singleton_append, List.nodup_cons]
      exact ⟨fun member => absent (List.mem_of_mem_tail member),
        distinct.tail⟩
    · rw [List.nodup_append_comm, List.singleton_append, List.nodup_cons]
      exact ⟨absent, distinct⟩

theorem length_le_length_touchKeys {keys : List κ} (distinct : keys.Nodup)
    (capacity : Nat) (key : κ) :
    keys.length ≤ (touchKeys capacity keys key).length := by
  rw [touchKeys]
  split
  · rename_i present
    have erased : keys.filter (· ≠ key) = keys.erase key := by
      rw [distinct.erase_eq_filter]
      exact List.filter_congr fun other _ => by
        rw [decide_not, bne, beq_eq_decide]
    have shorter : (keys.erase key).length + 1 = keys.length :=
      List.length_erase_add_one present
    rw [erased, List.length_append, List.length_singleton]
    omega
  · split
    · rw [List.length_append, List.length_tail, List.length_singleton]
      omega
    · rw [List.length_append, List.length_singleton]
      omega

theorem size_le_size_set {cache : RecencyCache κ ν}
    (distinct : cache.keys.Nodup) (key : κ) (value : ν) :
    cache.size ≤ (cache.set key value).size := by
  rw [← length_keys, ← length_keys, keys_set]
  exact length_le_length_touchKeys distinct _ _

theorem size_le_size_get? {cache : RecencyCache κ ν}
    (distinct : cache.keys.Nodup) (key : κ) :
    cache.size ≤ (cache.get? key).2.size := by
  by_cases present : key ∈ cache.keys
  · rw [← length_keys, ← length_keys, keys_get?_of_mem present]
    exact length_le_length_touchKeys distinct _ _
  · rw [get?_of_not_mem present]

theorem nodup_keys_get? {cache : RecencyCache κ ν}
    (distinct : cache.keys.Nodup) (key : κ) :
    (cache.get? key).2.keys.Nodup := by
  by_cases present : key ∈ cache.keys
  · rw [keys_get?_of_mem present]
    exact nodup_touchKeys distinct _ _
  · rw [get?_of_not_mem present]
    exact distinct

omit [DecidableEq κ] in
/-- No key has two entries. -/
theorem value_unique {cache : RecencyCache κ ν} (distinct : cache.keys.Nodup)
    {key : κ} {value other : ν} (stored : (key, value) ∈ cache.entries)
    (stored' : (key, other) ∈ cache.entries) : value = other :=
  congrArg Prod.snd (List.inj_on_of_nodup_map distinct stored stored' rfl)

theorem entries_get?_of_peek? {cache : RecencyCache κ ν} {key : κ} {value : ν}
    (found : cache.peek? key = some value) :
    (cache.get? key).2.entries =
      (cache.erase key).entries ++ [(key, value)] := by
  rw [get?, found]
  rfl

/-! ## Two caches used alike -/

/-- All that a cache holds is held by another one that has no less room, in the
same order; and while it is not full the two hold the same. -/
structure Within (small large : RecencyCache κ ν) : Prop where
  order : small.capacity ≤ large.capacity
  distinct : large.keys.Nodup
  entries : small.entries.Sublist large.entries
  agree : ¬ small.capacity ≤ small.size → small.entries = large.entries

section Within

variable {small large : RecencyCache κ ν} (within : Within small large)

include within

omit [DecidableEq κ] in
theorem Within.keys : small.keys.Sublist large.keys :=
  within.entries.map Prod.fst

omit [DecidableEq κ] in
theorem Within.distinct_small : small.keys.Nodup :=
  within.keys.nodup within.distinct

omit [DecidableEq κ] in
/-- A key that only the larger cache holds was forgotten by the smaller one,
which is full. -/
theorem Within.full_of_not_mem {key : κ} (present : key ∈ large.keys)
    (absent : key ∉ small.keys) : small.capacity ≤ small.size := by
  by_contra room
  apply absent
  rw [RecencyCache.keys, within.agree room]
  exact present

omit [DecidableEq κ] in
theorem Within.room (room : ¬ small.capacity ≤ small.size) :
    ¬ large.capacity ≤ large.size := by
  have order := within.order
  rw [size, within.agree room] at room
  rw [size]
  omega

theorem Within.entries_erase {key : κ} (absent : key ∉ small.keys) :
    small.entries.Sublist (large.erase key).entries := by
  rw [← entries_erase_of_not_mem absent]
  exact within.entries.filter _

theorem Within.peek?_of_peek? {key : κ} {value : ν}
    (found : small.peek? key = some value) : large.peek? key = some value := by
  have stored := within.entries.subset (mem_entries_of_peek? found)
  cases seen : large.peek? key with
  | none =>
      exact absurd (List.mem_map_of_mem stored)
        ((large.peek?_eq_none_iff key).mp seen)
  | some other =>
      rw [value_unique within.distinct (mem_entries_of_peek? seen) stored]

/-- While nothing has been forgotten, the two caches go on alike. -/
theorem Within.agree_set (room : ¬ small.capacity ≤ small.size) (key : κ)
    (value : ν) :
    (small.set key value).entries = (large.set key value).entries := by
  have same := within.agree room
  by_cases present : key ∈ small.keys
  · rw [entries_set_of_mem present,
      entries_set_of_mem (within.keys.subset present), erase, erase, same]
  · have held : key ∉ large.keys := fun held =>
      room (within.full_of_not_mem held present)
    rw [entries_set_of_room present room,
      entries_set_of_room held (within.room room), same]

/-- Whatever the larger cache gives up for a key, the smaller one does not hold
it any more either. -/
theorem Within.entries_set (key : κ) (value : ν) :
    (small.set key value).entries.Sublist (large.set key value).entries := by
  by_cases full : small.capacity ≤ small.size
  · have added : [(key, value)].Sublist [(key, value)] := List.Sublist.refl _
    by_cases present : key ∈ small.keys
    · rw [entries_set_of_mem present,
        entries_set_of_mem (within.keys.subset present)]
      exact (within.entries.filter _).append added
    · rw [entries_set_of_full present full]
      by_cases held : key ∈ large.keys
      · rw [entries_set_of_mem held]
        exact ((List.tail_sublist _).trans
          (within.entries_erase present)).append added
      · by_cases crowded : large.capacity ≤ large.size
        · rw [entries_set_of_full held crowded]
          exact within.entries.tail.append added
        · rw [entries_set_of_room held crowded]
          exact ((List.tail_sublist _).trans within.entries).append added
  · rw [within.agree_set full]

theorem Within.set (key : κ) (value : ν) :
    Within (small.set key value) (large.set key value) where
  order := by
    rw [capacity_set, capacity_set]
    exact within.order
  distinct := by
    rw [keys_set]
    exact nodup_touchKeys within.distinct _ _
  entries := within.entries_set key value
  agree := by
    intro room
    have grown := size_le_size_set within.distinct_small key value
    rw [capacity_set] at room
    exact within.agree_set (by omega) key value

/-- A key that only the larger cache holds moves to the end there, which leaves
the order of all that the smaller one holds as it is. -/
theorem Within.get? (key : κ) :
    Within (small.get? key).2 (large.get? key).2 := by
  have order :
      (small.get? key).2.capacity ≤ (large.get? key).2.capacity := by
    rw [capacity_get?, capacity_get?]
    exact within.order
  have distinct := nodup_keys_get? within.distinct key
  have grown := size_le_size_get? within.distinct_small key
  cases found : small.peek? key with
  | some value =>
      have held := within.peek?_of_peek? found
      refine ⟨order, distinct, ?_, fun room => ?_⟩
      · rw [entries_get?_of_peek? found, entries_get?_of_peek? held]
        exact (within.entries.filter _).append (List.Sublist.refl _)
      · rw [capacity_get?] at room
        rw [entries_get?_of_peek? found, entries_get?_of_peek? held, erase,
          erase, within.agree (by omega)]
  | none =>
      have absent := (small.peek?_eq_none_iff key).mp found
      rw [get?_of_not_mem absent] at order ⊢
      cases held : large.peek? key with
      | some value =>
          have present : key ∈ large.keys :=
            List.mem_map_of_mem (mem_entries_of_peek? held)
          refine ⟨order, distinct, ?_, fun room =>
            absurd (within.full_of_not_mem present absent) room⟩
          rw [entries_get?_of_peek? held]
          exact (within.entries_erase absent).trans
            (List.sublist_append_left _ _)
      | none =>
          rw [get?_of_not_mem ((large.peek?_eq_none_iff key).mp held)]
          exact within

theorem Within.apply (use : CacheUse κ ν) :
    Within (use.apply small) (use.apply large) := by
  cases use with
  | get key => exact within.get? key
  | set key value => exact within.set key value
  | clear =>
      exact ⟨within.order, List.nodup_nil, List.Sublist.refl _, fun _ => rfl⟩
  | contains key => exact within
  | size => exact within

theorem Within.run (uses : List (CacheUse κ ν)) :
    Within (small.run uses) (large.run uses) := by
  induction uses generalizing small large with
  | nil => exact within
  | cons use uses inductionHypothesis =>
      exact inductionHypothesis (within.apply use)

end Within

/-- What the lookups among some uses of a cache give, in order. -/
def answers : RecencyCache κ ν → List (CacheUse κ ν) → List (Option ν)
  | _, [] => []
  | cache, CacheUse.get key :: uses =>
      (cache.get? key).1 :: answers (cache.get? key).2 uses
  | cache, use :: uses => answers (use.apply cache) uses

/-- The second answer finds whatever the first one finds. -/
def FindsToo (first second : Option ν) : Prop :=
  ∀ value, first = some value → second = some value

theorem Within.answers {small large : RecencyCache κ ν}
    (within : Within small large) (uses : List (CacheUse κ ν)) :
    List.Forall₂ FindsToo (small.answers uses) (large.answers uses) := by
  induction uses generalizing small large with
  | nil => exact List.Forall₂.nil
  | cons use uses inductionHypothesis =>
      have later := inductionHypothesis (within.apply use)
      cases use with
      | get key =>
          refine List.Forall₂.cons (fun value found => ?_) later
          rw [get?_fst] at found ⊢
          exact within.peek?_of_peek? found
      | set key value => exact later
      | clear => exact later
      | contains key => exact later
      | size => exact later

/-! ## Fresh caches -/

omit [DecidableEq κ] in
theorem within_empty {few many : Nat} (order : few ≤ many) :
    Within (empty few : RecencyCache κ ν) (empty many) :=
  ⟨order, List.nodup_nil, List.Sublist.refl _, fun _ => rfl⟩

omit [DecidableEq κ] in
theorem eq_empty_of_create? {capacity : Int} {fresh : RecencyCache κ ν}
    (created : create? capacity = some fresh) :
    fresh = empty capacity.toNat := by
  rw [create?] at created
  split at created
  · exact (Option.some.inj created).symm
  · cases created

/-- However two fresh caches are used, the entries of the one with less room
stand among those of the other, in the same order and with the same values.  So
every lookup on the way that finds its key in the smaller cache finds it in the
larger one, with the same value. -/
theorem entries_run_sublist_of_capacity_le {few many : Int}
    {small large : RecencyCache κ ν} (order : few ≤ many)
    (createdSmall : create? few = some small)
    (createdLarge : create? many = some large) (uses : List (CacheUse κ ν)) :
    (small.run uses).keys.Sublist (large.run uses).keys ∧
      (small.run uses).entries.Sublist (large.run uses).entries ∧
      (∀ key ∈ (small.run uses).keys, ∃ value,
        (small.run uses).peek? key = some value ∧
          (large.run uses).peek? key = some value) ∧
      List.Forall₂ FindsToo (small.answers uses) (large.answers uses) := by
  obtain rfl := eq_empty_of_create? createdSmall
  obtain rfl := eq_empty_of_create? createdLarge
  have fresh : Within (empty few.toNat : RecencyCache κ ν)
      (empty many.toNat) := within_empty (Int.toNat_le_toNat order)
  have within := fresh.run uses
  refine ⟨within.keys, within.entries, fun key present => ?_,
    fresh.answers uses⟩
  obtain ⟨value, _, found⟩ := get?_of_mem present
  have seen := congrArg Prod.fst found
  rw [get?_fst] at seen
  exact ⟨value, seen, within.peek?_of_peek? seen⟩

/-- A key is missed with room for one and found with room for two; the next key
displaces different ones, and still the smaller cache holds nothing else. -/
theorem entries_run_sublist_of_capacity_le_parted :
    (1 : Int) ≤ 2 ∧
      (create? 1 : Option (RecencyCache String Nat)) = some (empty 1) ∧
      (create? 2 : Option (RecencyCache String Nat)) = some (empty 2) ∧
      ((empty 1).run
        [CacheUse.set "a" 1, CacheUse.set "b" 2, CacheUse.get "a",
          CacheUse.set "c" 3]).entries.Sublist [("a", 1), ("c", 3)] := by
  have order : (1 : Int) ≤ 2 := by decide
  have createdSmall : (create? 1 : Option (RecencyCache String Nat)) =
      some (empty 1) := rfl
  have createdLarge : (create? 2 : Option (RecencyCache String Nat)) =
      some (empty 2) := rfl
  have entries :=
    (entries_run_sublist_of_capacity_le order createdSmall createdLarge
      [CacheUse.set "a" 1, CacheUse.set "b" 2, CacheUse.get "a",
        CacheUse.set "c" 3]).2.1
  exact ⟨order, createdSmall, createdLarge, entries⟩

end UtilityCss.RecencyCache

import Mathlib.Data.List.Dedup
import Mathlib.Data.List.DropRight
import UtilityCss.Proofs.RecencyCache

/-!
# Caches in closed form

What a cache holds after any sequence of operations can be read off the touches
alone.  A key is touched when it is stored and when it is found.  The keys of
the cache are the distinct keys touched since it was cleared last, as many of
them as the cache has room for, in the order of their last touches, and each
has the value that was stored for it last.
-/

namespace UtilityCss

/-- What can be done to a cache. -/
inductive CacheUse (κ : Type u) (ν : Type v) where
  | get (key : κ)
  | set (key : κ) (value : ν)
  | clear
  | contains (key : κ)
  | size
deriving Repr

/-! ## The last distinct items of a list -/

section LastDistinct

variable {α : Type u}

/-- `LastOf count all kept` says that `kept` is the end of `all` and as long as
it can be with at most so many items. -/
def LastOf (count : Nat) (all kept : List α) : Prop :=
  ∃ dropped,
    all = dropped ++ kept ∧ kept.length ≤ count ∧
      (dropped ≠ [] → kept.length = count)

theorem LastOf.eq_rtake {count : Nat} {all kept : List α}
    (last : LastOf count all kept) : kept = all.rtake count := by
  obtain ⟨dropped, rfl, bound, full⟩ := last
  rw [List.rtake, List.length_append]
  by_cases nothing : dropped = []
  · subst dropped
    have excess : 0 + kept.length - count = 0 := by omega
    rw [List.length_nil, excess, List.nil_append, List.drop_zero]
  · have excess : dropped.length + kept.length - count = dropped.length := by
      have filled := full nothing
      omega
    rw [excess, List.drop_left]

/-- An item is among the last ones exactly when few enough stand behind it. -/
theorem LastOf.mem_iff {count : Nat} {all kept before after : List α} {item : α}
    (last : LastOf count all kept) (nodup : all.Nodup)
    (partition : all = before ++ item :: after) :
    item ∈ kept ↔ after.length < count := by
  obtain ⟨dropped, equality, bound, full⟩ := last
  rw [partition] at equality nodup
  rcases List.append_eq_append_iff.mp equality with
    ⟨middle, droppedEq, tailEq⟩ | ⟨middle, beforeEq, keptEq⟩
  · cases middle with
    | nil =>
        rw [List.nil_append] at tailEq
        rw [← tailEq] at bound ⊢
        simp only [List.length_cons] at bound
        exact ⟨fun _ => by omega, fun _ => List.mem_cons_self⟩
    | cons first rest =>
        obtain ⟨rfl, afterEq⟩ : item = first ∧ after = rest ++ kept :=
          List.cons.inj tailEq
        have filled : kept.length = count := by
          apply full
          rw [droppedEq]
          exact List.append_ne_nil_of_right_ne_nil _ (List.cons_ne_nil _ _)
        have absent : item ∉ kept := by
          have behind :=
            (List.nodup_cons.mp (List.nodup_append.mp nodup).2.1).1
          rw [afterEq] at behind
          exact fun member => behind (List.mem_append_right rest member)
        have long : kept.length ≤ after.length := by
          rw [afterEq, List.length_append]
          exact Nat.le_add_left _ _
        exact ⟨fun member => absurd member absent, fun _ => by omega⟩
  · rw [keptEq] at bound ⊢
    simp only [List.length_append, List.length_cons] at bound
    exact ⟨fun _ => by omega, fun _ => by simp⟩

variable [DecidableEq α]

/-- Touching an item moves it to the end of the distinct items. -/
theorem dedup_concat (items : List α) (item : α) :
    (items ++ [item]).dedup = items.dedup.filter (· ≠ item) ++ [item] := by
  induction items with
  | nil => rfl
  | cons head tail inductionHypothesis =>
      by_cases later : head ∈ tail
      · have laterStill : head ∈ tail ++ [item] :=
          List.mem_append_left _ later
        rw [List.cons_append, List.dedup_cons_of_mem laterStill,
          List.dedup_cons_of_mem later, inductionHypothesis]
      · by_cases same : head = item
        · subst head
          have laterStill : item ∈ tail ++ [item] :=
            List.mem_append_right _ List.mem_cons_self
          rw [List.cons_append, List.dedup_cons_of_mem laterStill,
            List.dedup_cons_of_notMem later, inductionHypothesis]
          simp
        · have neverLater : head ∉ tail ++ [item] := by
            simp [later, same]
          rw [List.cons_append, List.dedup_cons_of_notMem neverLater,
            List.dedup_cons_of_notMem later, inductionHypothesis]
          simp [same]

/-- The items after the last occurrence of an item. -/
def afterLast (item : α) (items : List α) : List α :=
  items.rtakeWhile (· ≠ item)

theorem afterLast_cons_of_mem {item : α} {tail : List α}
    (later : item ∈ tail) (head : α) :
    afterLast item (head :: tail) = afterLast item tail := by
  have stops :
      ¬ (tail.reverse.takeWhile (· ≠ item)).length =
        tail.reverse.length := by
    intro whole
    have same : tail.reverse.takeWhile (· ≠ item) = tail.reverse :=
      (List.takeWhile_prefix _).eq_of_length whole
    have passes :=
      List.takeWhile_eq_self_iff.mp same item (List.mem_reverse.mpr later)
    simp at passes
  rw [afterLast, afterLast, List.rtakeWhile, List.rtakeWhile,
    List.reverse_cons, List.takeWhile_append, if_neg stops]

theorem afterLast_cons_of_notMem {item : α} {tail : List α}
    (absent : item ∉ tail) : afterLast item (item :: tail) = tail := by
  have passes : tail.reverse.takeWhile (· ≠ item) = tail.reverse := by
    rw [List.takeWhile_eq_self_iff]
    intro other member
    have different : other ≠ item := fun same =>
      absent (same ▸ List.mem_reverse.mp member)
    simpa using different
  rw [afterLast, List.rtakeWhile, List.reverse_cons, List.takeWhile_append,
    passes, if_pos rfl]
  simp

/-- Behind an item stand the distinct items that occur after its last
occurrence. -/
theorem dedup_eq_append_cons {items : List α} {item : α}
    (member : item ∈ items) :
    ∃ before,
      items.dedup =
        before ++ item :: (afterLast item items).dedup := by
  induction items with
  | nil => cases member
  | cons head tail inductionHypothesis =>
      by_cases later : item ∈ tail
      · obtain ⟨before, equality⟩ := inductionHypothesis later
        rw [afterLast_cons_of_mem later]
        by_cases repeated : head ∈ tail
        · exact ⟨before, by
            rw [List.dedup_cons_of_mem repeated, equality]⟩
        · exact ⟨head :: before, by
            rw [List.dedup_cons_of_notMem repeated, equality,
              List.cons_append]⟩
      · have same : item = head := by
          simpa [later] using member
        subst head
        rw [afterLast_cons_of_notMem later,
          List.dedup_cons_of_notMem later]
        exact ⟨[], rfl⟩

open RecencyCache in
/-- Touching an item of the last ones, or a new one, gives the last ones after
the touch. -/
theorem LastOf.touch {count : Nat} {all kept : List α}
    (last : LastOf count all kept) (nodup : all.Nodup) (room : 0 < count)
    (item : α) :
    LastOf count (all.filter (· ≠ item) ++ [item])
      (touchKeys count kept item) := by
  obtain ⟨dropped, rfl, bound, full⟩ := last
  rw [touchKeys, List.filter_append]
  by_cases present : item ∈ kept
  · have absent : item ∉ dropped := fun member =>
      (List.nodup_append.mp nodup).2.2 item member item present rfl
    have untouched : dropped.filter (· ≠ item) = dropped := by
      rw [List.filter_eq_self]
      intro other member
      have different : other ≠ item := fun same => absent (same ▸ member)
      simpa using different
    have shorter : (kept.filter (· ≠ item)).length + 1 = kept.length := by
      have erased : kept.filter (· ≠ item) = kept.erase item := by
        rw [(List.nodup_append.mp nodup).2.1.erase_eq_filter]
        exact List.filter_congr fun other _ => by
          rw [decide_not, bne, beq_eq_decide]
      have filled := List.length_pos_of_mem present
      rw [erased, List.length_erase_of_mem present]
      omega
    rw [if_pos present, untouched]
    refine ⟨dropped, List.append_assoc _ _ _, ?_, fun some => ?_⟩
    · rw [List.length_append, List.length_singleton, shorter]
      exact bound
    · rw [List.length_append, List.length_singleton, shorter]
      exact full some
  · have untouched : kept.filter (· ≠ item) = kept := by
      rw [List.filter_eq_self]
      intro other member
      have different : other ≠ item := fun same => present (same ▸ member)
      simpa using different
    rw [if_neg present, untouched]
    by_cases crowded : count ≤ kept.length
    · rw [if_pos crowded]
      cases kept with
      | nil => simp only [List.length_nil] at crowded; omega
      | cons oldest others =>
          refine ⟨dropped.filter (· ≠ item) ++ [oldest], by simp, ?_, ?_⟩
          · simp only [List.length_cons] at bound
            simpa using bound
          · intro _
            simp only [List.length_cons] at bound crowded
            simp only [List.tail_cons, List.length_append,
              List.length_singleton]
            omega
    · have nothing : dropped = [] := by
        by_contra some
        exact crowded (Nat.le_of_eq (full some).symm)
      subst dropped
      rw [if_neg crowded]
      refine ⟨[], rfl, ?_, fun some => absurd rfl some⟩
      rw [List.length_append, List.length_singleton]
      omega

end LastDistinct

/-! ## Histories of a cache -/

namespace CacheUse

variable {κ : Type u} {ν : Type v} [DecidableEq κ]

/-- The cache after one operation; asking changes nothing. -/
def apply (cache : RecencyCache κ ν) : CacheUse κ ν → RecencyCache κ ν
  | get key => (cache.get? key).2
  | set key value => cache.set key value
  | clear => cache.clear
  | contains _ => cache
  | size => cache

/-- The touches since the cache was cleared last, after one more operation. -/
def touch (cache : RecencyCache κ ν) (touches : List κ) :
    CacheUse κ ν → List κ
  | get key => if key ∈ cache.keys then touches ++ [key] else touches
  | set key _ => touches ++ [key]
  | clear => []
  | contains _ => touches
  | size => touches

/-- The value stored last for a key, after one more operation. -/
def store (key : κ) (value? : Option ν) : CacheUse κ ν → Option ν
  | set other value => if other = key then some value else value?
  | _ => value?

end CacheUse

namespace RecencyCache

variable {κ : Type u} {ν : Type v} [DecidableEq κ]

def run (cache : RecencyCache κ ν) (uses : List (CacheUse κ ν)) :
    RecencyCache κ ν :=
  uses.foldl CacheUse.apply cache

/-- The keys touched by operations on a cache, those before them included, as
far as they come after the last time the cache is cleared. -/
def touchesFrom (cache : RecencyCache κ ν) (touches : List κ) :
    List (CacheUse κ ν) → List κ
  | [] => touches
  | use :: uses => (use.apply cache).touchesFrom (use.touch cache touches) uses

/-- The keys touched by operations on a fresh cache since it was cleared last,
in the order of the touches. -/
def touches (fresh : RecencyCache κ ν) (uses : List (CacheUse κ ν)) : List κ :=
  fresh.touchesFrom [] uses

end RecencyCache

/-- The value that some operations store last for a key. -/
def CacheUse.lastValue? {κ : Type u} {ν : Type v} [DecidableEq κ]
    (uses : List (CacheUse κ ν)) (key : κ) : Option ν :=
  uses.foldl (store key) none

namespace RecencyCache

variable {κ : Type u} {ν : Type v} [DecidableEq κ]

/-- What the touches and the values stored last tell about a cache. -/
structure Reflects (capacity : Nat) (touches : List κ) (value? : κ → Option ν)
    (cache : RecencyCache κ ν) : Prop where
  room : cache.capacity = capacity
  recent : LastOf capacity touches.dedup cache.keys
  values : ∀ entry ∈ cache.entries, value? entry.1 = some entry.2

theorem Reflects.get {capacity : Nat} {touches : List κ}
    {value? : κ → Option ν} {cache : RecencyCache κ ν}
    (reflects : Reflects capacity touches value? cache) (room : 0 < capacity)
    (key : κ) :
    Reflects capacity ((CacheUse.get key).touch cache touches) value?
      (cache.get? key).2 := by
  rw [CacheUse.touch]
  by_cases present : key ∈ cache.keys
  · rw [if_pos present]
    refine ⟨?_, ?_, fun entry member => ?_⟩
    · rw [capacity_get?, reflects.room]
    · rw [keys_get?_of_mem present, reflects.room, dedup_concat]
      exact reflects.recent.touch (List.nodup_dedup touches) room key
    · exact reflects.values entry (mem_entries_of_get? member)
  · rw [if_neg present, get?_of_not_mem present]
    exact reflects

theorem Reflects.set {capacity : Nat} {touches : List κ}
    {value? : κ → Option ν} {cache : RecencyCache κ ν}
    (reflects : Reflects capacity touches value? cache) (room : 0 < capacity)
    (key : κ) (value : ν) :
    Reflects capacity (touches ++ [key])
      (fun other => (CacheUse.set key value).store other (value? other))
      (cache.set key value) := by
  refine ⟨?_, ?_, fun entry member => ?_⟩
  · rw [capacity_set, reflects.room]
  · rw [keys_set, reflects.room, dedup_concat]
    exact reflects.recent.touch (List.nodup_dedup touches) room key
  · rcases mem_entries_of_set member with rfl | ⟨stored, other⟩
    · rw [CacheUse.store, if_pos rfl]
    · rw [CacheUse.store, if_neg other.symm]
      exact reflects.values entry stored

theorem Reflects.apply {capacity : Nat} {touches : List κ}
    {value? : κ → Option ν} {cache : RecencyCache κ ν}
    (reflects : Reflects capacity touches value? cache) (room : 0 < capacity)
    (use : CacheUse κ ν) :
    Reflects capacity (use.touch cache touches)
      (fun key => use.store key (value? key)) (use.apply cache) := by
  cases use with
  | get key => exact reflects.get room key
  | set key value => exact reflects.set room key value
  | clear =>
      refine ⟨reflects.room, ⟨[], rfl, Nat.zero_le _, ?_⟩, ?_⟩
      · exact fun some => absurd rfl some
      · intro entry member
        cases member
  | contains key => exact reflects
  | size => exact reflects

theorem Reflects.run {capacity : Nat} {touches : List κ}
    {value? : κ → Option ν} {cache : RecencyCache κ ν}
    (reflects : Reflects capacity touches value? cache) (room : 0 < capacity)
    (uses : List (CacheUse κ ν)) :
    Reflects capacity (cache.touchesFrom touches uses)
      (fun key => uses.foldl (CacheUse.store key) (value? key))
      (cache.run uses) := by
  induction uses generalizing touches value? cache with
  | nil => exact reflects
  | cons use uses inductionHypothesis =>
      exact inductionHypothesis (reflects.apply room use)

theorem reflects_run (capacity : Nat) (room : 0 < capacity)
    (uses : List (CacheUse κ ν)) :
    Reflects capacity ((empty capacity).touches uses)
      (CacheUse.lastValue? uses) ((empty capacity).run uses) := by
  have start :
      Reflects capacity ([] : List κ) (fun _ => none)
        (empty capacity : RecencyCache κ ν) :=
    ⟨rfl, ⟨[], rfl, Nat.zero_le _, fun some => absurd rfl some⟩,
      fun entry member => by cases member⟩
  exact start.run room uses

/-! ## What a key gives -/

theorem Reflects.peek?_of_mem {capacity : Nat} {touches : List κ}
    {value? : κ → Option ν} {cache : RecencyCache κ ν}
    (reflects : Reflects capacity touches value? cache) {key : κ}
    (present : key ∈ cache.keys) : cache.peek? key = value? key := by
  cases found : cache.peek? key with
  | none => exact absurd present ((cache.peek?_eq_none_iff key).mp found)
  | some value =>
      exact (reflects.values _ (mem_entries_of_peek? found)).symm

/-- A key is there exactly when it was touched and fewer other keys than there
is room for were touched after it. -/
theorem Reflects.mem_keys_iff {capacity : Nat} {touches : List κ}
    {value? : κ → Option ν} {cache : RecencyCache κ ν}
    (reflects : Reflects capacity touches value? cache) (key : κ) :
    key ∈ cache.keys ↔
      key ∈ touches ∧ (afterLast key touches).dedup.length < capacity := by
  have recent := reflects.recent
  by_cases touched : key ∈ touches
  · obtain ⟨before, partition⟩ := dedup_eq_append_cons touched
    rw [recent.mem_iff (List.nodup_dedup touches) partition]
    exact ⟨fun bound => ⟨touched, bound⟩, fun both => both.2⟩
  · obtain ⟨dropped, equality, _⟩ := recent
    constructor
    · intro present
      exact absurd
        (List.mem_dedup.mp (equality ▸ List.mem_append_right dropped present))
        touched
    · exact fun both => absurd both.1 touched

/-- After any operations on a fresh cache its keys are the distinct keys that
were touched last since it was cleared last, as many as it has room for, from
the oldest touch to the newest, each with the value stored for it last.  So a
key gives its last value exactly when fewer other keys than there is room for
were touched after it; missing a key changes nothing. -/
theorem keys_run_eq_last_touches {capacity : Int} {fresh : RecencyCache κ ν}
    (created : create? capacity = some fresh) (uses : List (CacheUse κ ν)) :
    (fresh.run uses).keys =
        (fresh.touches uses).dedup.rtake capacity.toNat ∧
      (fresh.run uses).size = (fresh.run uses).keys.length ∧
      (∀ key, (fresh.run uses).contains key = true ↔
        key ∈ (fresh.run uses).keys) ∧
      (∀ key ∈ (fresh.run uses).keys, ∃ value,
        (fresh.run uses).peek? key = some value ∧
          CacheUse.lastValue? uses key = some value) ∧
      (∀ key value, ((fresh.run uses).get? key).1 = some value ↔
        CacheUse.lastValue? uses key = some value ∧
          key ∈ fresh.touches uses ∧
          (afterLast key (fresh.touches uses)).dedup.length < capacity) ∧
      ∀ key, ((fresh.run uses).get? key).1 = none →
        ((fresh.run uses).get? key).2 = fresh.run uses := by
  have positive : 0 < capacity := by
    by_contra excluded
    rw [create?, if_neg excluded] at created
    cases created
  rw [create?, if_pos positive] at created
  obtain rfl := Option.some.inj created
  have reflects := reflects_run capacity.toNat (by omega) uses
  refine ⟨reflects.recent.eq_rtake, (length_keys _).symm,
    contains_iff _, fun key present => ?_, fun key value => ?_,
    fun key missed => ?_⟩
  · obtain ⟨value, stored, found⟩ := get?_of_mem present
    have seen := congrArg Prod.fst found
    rw [get?_fst] at seen
    exact ⟨value, seen, (reflects.peek?_of_mem present).symm.trans seen⟩
  · have bound :
        (afterLast key ((empty capacity.toNat).touches uses)).dedup.length <
            capacity.toNat ↔
          ((afterLast key ((empty capacity.toNat).touches uses)).dedup.length :
            Int) < capacity := by
      omega
    rw [get?_fst, ← bound, ← reflects.mem_keys_iff key]
    constructor
    · intro found
      have present : key ∈ (run (empty capacity.toNat) uses).keys :=
        List.mem_map_of_mem (mem_entries_of_peek? found)
      exact ⟨(reflects.peek?_of_mem present).symm.trans found, present⟩
    · rintro ⟨last, present⟩
      rw [reflects.peek?_of_mem present, last]
  · rw [get?_fst, peek?_eq_none_iff] at missed
    rw [get?_of_not_mem missed]

/-- With room for two keys, finding the older one saves it from the third. -/
theorem keys_run_eq_last_touches_saved :
    (create? 2 : Option (RecencyCache String Nat)) = some (empty 2) ∧
      ((empty 2).run
        [CacheUse.set "a" 1, CacheUse.set "b" 2, CacheUse.get "a",
          CacheUse.set "c" 3]).keys = ["a", "c"] := by
  have created : (create? 2 : Option (RecencyCache String Nat)) =
      some (empty 2) := rfl
  have keys :=
    (keys_run_eq_last_touches created
      [CacheUse.set "a" 1, CacheUse.set "b" 2, CacheUse.get "a",
        CacheUse.set "c" 3]).1
  exact ⟨created, keys.trans (by decide)⟩

end RecencyCache

end UtilityCss

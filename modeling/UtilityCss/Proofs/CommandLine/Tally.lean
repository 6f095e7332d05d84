import UtilityCss.CommandLine.Converting
import UtilityCss.Proofs.Conversion
import UtilityCss.Proofs.RecencyCache.ClosedForm
import UtilityCss.Proofs.Resolver.Static

/-!
# What a bench with a style table remembers and counts

Every text that is neither blank nor rejected is looked up, and is remembered
afterwards whether it was found or not.  So the keys of the lookups since the
last reset tell everything: what the cache holds, and how many of them were
found.
-/

namespace UtilityCss

/-! ## Lookups in a cache -/

/-- The key under which a text is looked up, unless it is blank or rejected. -/
def lookedUp (limit : Int) (text : String) : Option String :=
  if ClassText.isBlankText text.toList then none
  else
    match Guard.check limit text.toList with
    | Except.error _ => none
    | Except.ok () => some (keyOf text)

theorem lookedUp_of_blank (limit : Int) {text : String}
    (blank : ClassText.isBlankText text.toList = true) :
    lookedUp limit text = none := by
  rw [lookedUp, if_pos blank]

theorem lookedUp_of_rejected {limit : Int} {text : String} {cause : Rejection}
    (filled : ClassText.isBlankText text.toList = false)
    (failed : Guard.check limit text.toList = Except.error cause) :
    lookedUp limit text = none := by
  rw [lookedUp, filled, if_neg Bool.false_ne_true, failed]

theorem lookedUp_of_accepted {limit : Int} {text : String}
    (accepted : Accepted limit text) :
    lookedUp limit text = some (keyOf text) := by
  rw [lookedUp, accepted.filled, if_neg Bool.false_ne_true, accepted.passed]

section Counting

variable {κ : Type u} [DecidableEq κ]

/-- After some lookups, a key is found if it was among them and fewer other keys
than there is room for came after it. -/
def isRecent (capacity : Nat) (keys : List κ) (key : κ) : Bool :=
  decide (key ∈ keys ∧ (afterLast key keys).dedup.length < capacity)

/-- How many of some lookups find their key when others come before them. -/
def hitsAfter (capacity : Nat) : (earlier : List κ) → List κ → Nat
  | _, [] => 0
  | earlier, key :: keys =>
      (isRecent capacity earlier key).toNat +
        hitsAfter capacity (earlier ++ [key]) keys

theorem hitsAfter_concat (capacity : Nat) (earlier keys : List κ) (key : κ) :
    hitsAfter capacity earlier (keys ++ [key]) =
      hitsAfter capacity earlier keys +
        (isRecent capacity (earlier ++ keys) key).toNat := by
  induction keys generalizing earlier with
  | nil => simp [hitsAfter]
  | cons head keys inductionHypothesis =>
      rw [List.cons_append, hitsAfter, hitsAfter, inductionHypothesis,
        List.append_assoc, List.singleton_append]
      omega

theorem LastOf.length_eq {α : Type u} {count : Nat} {all kept : List α}
    (last : LastOf count all kept) : kept.length = min count all.length := by
  obtain ⟨dropped, rfl, bound, full⟩ := last
  rw [List.length_append]
  by_cases nothing : dropped = []
  · rw [nothing, List.length_nil]
    omega
  · have filled := full nothing
    omega

end Counting

/-- The state of a cache after lookups each of which is remembered. -/
def CacheStatus.ofLookups (capacity : Nat) (keys : List String) :
    CacheStatus where
  size := (min capacity keys.dedup.length : Nat)
  capacity := capacity
  hits := hitsAfter capacity [] keys
  misses := keys.length - hitsAfter capacity [] keys

/-! ## A processor and its lookups -/

namespace Processor

/-- The processor has looked up some keys since its last reset, and has
remembered each of them with the styles of its classes. -/
structure Tells (settings : Settings) (styles : String → StyleValues)
    (keys : List String) (processor : Processor) : Prop where
  fixed : processor.settings = settings
  room : processor.cache.capacity = settings.cacheCapacity
  recent : LastOf settings.cacheCapacity keys.dedup processor.cache.keys
  remembers : processor.Remembers styles
  hits : processor.hits = hitsAfter settings.cacheCapacity [] keys
  lookups : processor.hits + processor.misses = keys.length

theorem tells_create (settings : Settings) (styles : String → StyleValues) :
    (create settings).Tells settings styles [] where
  fixed := rfl
  room := rfl
  recent := ⟨[], rfl, Nat.zero_le _, fun some => absurd rfl some⟩
  remembers := remembers_create settings styles
  hits := rfl
  lookups := rfl

section Telling

variable {settings : Settings} {styles : String → StyleValues}
  {keys : List String} {processor : Processor}

theorem Tells.reset (tells : processor.Tells settings styles keys) :
    processor.reset.Tells settings styles [] where
  fixed := tells.fixed
  room := tells.room
  recent := ⟨[], rfl, Nat.zero_le _, fun some => absurd rfl some⟩
  remembers := remembers_reset processor styles
  hits := rfl
  lookups := rfl

theorem Tells.enter (tells : processor.Tells settings styles keys)
    (phases : List Phase) :
    (processor.enter phases).Tells settings styles keys :=
  ⟨tells.fixed, tells.room, tells.recent, tells.remembers, tells.hits,
    tells.lookups⟩

theorem Tells.reflects (tells : processor.Tells settings styles keys) :
    RecencyCache.Reflects settings.cacheCapacity keys
      (fun key => some
        (Conversion.ofStyles (classesOf key) (styles (classesOf key))))
      processor.cache where
  room := tells.room
  recent := tells.recent
  values entry member := by rw [tells.remembers entry member]

theorem Tells.isRecent_iff (tells : processor.Tells settings styles keys)
    (key : String) :
    isRecent settings.cacheCapacity keys key =
      (processor.cache.peek? key).isSome := by
  rw [← RecencyCache.contains_eq_isSome_peek?, isRecent, Bool.eq_iff_iff,
    decide_eq_true_iff, RecencyCache.contains_iff]
  exact (tells.reflects.mem_keys_iff key).symm

theorem Tells.status (tells : processor.Tells settings styles keys) :
    processor.status =
      CacheStatus.ofLookups settings.cacheCapacity keys := by
  have size : processor.cache.size =
      min settings.cacheCapacity keys.dedup.length := by
    rw [← RecencyCache.length_keys, tells.recent.length_eq]
  have hits := tells.hits
  have lookups := tells.lookups
  have misses : (processor.misses : Int) =
      keys.length - hitsAfter settings.cacheCapacity [] keys := by
    omega
  rw [Processor.status, CacheStatus.ofLookups, size, tells.room, hits, misses]

theorem Tells.found (tells : processor.Tells settings styles keys)
    {key : String} {found : Conversion}
    (hit : processor.cache.peek? key = some found) (phases : List Phase) :
    ({ processor with
        cache := (processor.cache.get? key).2
        hits := processor.hits + 1 }.enter phases).Tells settings styles
      (keys ++ [key]) := by
  have recent : isRecent settings.cacheCapacity keys key = true := by
    rw [tells.isRecent_iff, hit, Option.isSome_some]
  have present : key ∈ processor.cache.keys := by
    rw [← RecencyCache.contains_iff, RecencyCache.contains_eq_isSome_peek?,
      hit, Option.isSome_some]
  have reflects := tells.reflects.get settings.cacheCapacity_pos key
  rw [CacheUse.touch, if_pos present] at reflects
  refine ⟨tells.fixed, reflects.room, reflects.recent, ?_, ?_, ?_⟩
  · intro entry member
    exact tells.remembers entry (RecencyCache.mem_entries_of_get? member)
  · show processor.hits + 1 = _
    rw [hitsAfter_concat, List.nil_append, recent, tells.hits,
      Bool.toNat_true]
  · show processor.hits + 1 + processor.misses = _
    have lookups := tells.lookups
    rw [List.length_append, List.length_singleton]
    omega

theorem Tells.missed (tells : processor.Tells settings styles keys)
    {text : String} (miss : processor.cache.peek? (keyOf text) = none)
    (opened : List Phase) :
    (({ processor with misses := processor.misses + 1 }.enter opened).closing
      (Job.ofText text) (Except.ok (styles (classesOf text)))
      true).2.2.Tells settings styles (keys ++ [keyOf text]) := by
  have recent : isRecent settings.cacheCapacity keys (keyOf text) = false := by
    rw [tells.isRecent_iff, miss, Option.isSome_none]
  have reflects := tells.reflects.set settings.cacheCapacity_pos (keyOf text)
    (Conversion.ofStyles (classesOf text) (styles (classesOf text)))
  refine ⟨tells.fixed, reflects.room, reflects.recent, ?_, ?_, ?_⟩
  · exact Remembers.closing tells.remembers
      (fun values same => (Except.ok.inj same).symm) true
  · show processor.hits = _
    rw [hitsAfter_concat, List.nil_append, recent, tells.hits,
      Bool.toNat_false, Nat.add_zero]
  · show processor.hits + (processor.misses + 1) = _
    have lookups := tells.lookups
    rw [List.length_append, List.length_singleton]
    omega

/-- A conversion looks its text up, if at all, and remembers it. -/
theorem Tells.convert {σ : Type}
    (tells : processor.Tells settings styles keys) {resolver : Resolver σ}
    {state : σ} {text : String}
    (resolved : (resolver.extract state (classesOf text)).1 =
      Except.ok (styles (classesOf text))) :
    (processor.convert resolver state text).2.1.Tells settings styles
      (keys ++ (lookedUp settings.maxInputLength text).toList) := by
  rw [Processor.convert]
  have opens := processor.opens text
  generalize processor.opening text = opened at opens ⊢
  have fixed := tells.fixed
  cases opens with
  | blank empty =>
      rw [lookedUp_of_blank _ empty, Option.toList_none, List.append_nil]
      exact tells.enter _
  | rejected cause filled failed =>
      rw [fixed] at failed
      rw [lookedUp_of_rejected filled failed, Option.toList_none,
        List.append_nil]
      exact tells.enter _
  | hit found accepted hit =>
      rw [fixed] at accepted
      rw [lookedUp_of_accepted accepted, Option.toList_some]
      exact tells.found hit _
  | miss accepted miss =>
      rw [fixed] at accepted
      rw [lookedUp_of_accepted accepted, Option.toList_some]
      simp only [Job.ofText, resolved]
      exact tells.missed miss _

end Telling

end Processor

end UtilityCss

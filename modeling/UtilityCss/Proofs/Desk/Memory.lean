import UtilityCss.Proofs.Desk.Accounts
import UtilityCss.Proofs.Desk.Routes
import UtilityCss.Proofs.RecencyCache.ClosedForm

/-!
# What is answered from memory

A key is touched by a lookup that finds it, and by a conversion that has missed
it and ends in a success while it is still wanted.  Between such a miss and its
success other calls look up, store and reset as they like, yet what the cache
holds in the end is told by the touches alone.  So they tell as well which
conversions make no request of the resolver.
-/

namespace UtilityCss

namespace RecencyCache

variable {κ : Type u} {ν : Type v} [DecidableEq κ]

theorem peek?_push_of_not_mem {cache : RecencyCache κ ν} {key : κ}
    (absent : key ∉ cache.keys) (value : ν) :
    (cache.push key value).peek? key = some value := by
  have unfound := Option.map_eq_none_iff.mp ((cache.peek?_eq_none_iff key).mpr absent)
  rw [peek?, push, List.find?_append, unfound]
  simp

theorem peek?_push_erase (cache : RecencyCache κ ν) (key : κ) (value : ν) :
    ((cache.erase key).push key value).peek? key = some value := by
  refine peek?_push_of_not_mem ?_ value
  rw [keys_erase]
  simp

theorem peek?_get? {cache : RecencyCache κ ν} {key : κ} {value : ν}
    (found : cache.peek? key = some value) :
    (cache.get? key).2.peek? key = some value := by
  rw [get?, found]
  exact peek?_push_erase cache key value

theorem peek?_set (cache : RecencyCache κ ν) (key : κ) (value : ν) :
    (cache.set key value).peek? key = some value := by
  rw [set]
  by_cases present : cache.contains key = true
  · rw [if_pos present]
    exact peek?_push_erase cache key value
  · have absent : key ∉ cache.keys := fun member =>
      present ((cache.contains_iff key).mpr member)
    rw [if_neg present]
    split
    · refine peek?_push_of_not_mem ?_ value
      rw [keys_evictOldest]
      exact fun member => absent (List.mem_of_mem_tail member)
    · exact peek?_push_of_not_mem absent value

end RecencyCache

namespace Desk

/-! ## One action -/

/-- The conversion of a call, if its styles have been found and it is still
wanted. -/
def succeeding (desk : Desk) (call : Nat) (text : String)
    (token : Option Token) : Extraction → List (Nat × String)
  | Extraction.ended (Except.ok _) =>
      if desk.wants token then [(call, text)] else []
  | _ => []

/-- The conversions that had missed their key and end with an action in a
success that is still wanted. -/
def storedBy (desk : Desk) : Action → List (Nat × String)
  | Action.reply call reply =>
      match desk.calls[call]? with
      | some ⟨text, token, Progress.extracting _ extraction⟩ =>
          ((extraction.take? reply).map
            (desk.succeeding call text token)).getD []
      | _ => []
  | _ => []

/-- The keys that an action touches. -/
def touchedBy (desk : Desk) (action : Action) : List String :=
  (desk.foundBy action ++ desk.storedBy action).map fun conversion =>
    keyOf conversion.2

theorem storedBy_of_take? {desk : Desk} {call : Nat} {text : String}
    {token : Option Token} {job : Job} {extraction later : Extraction}
    {reply : Reply}
    (waiting :
      desk.calls[call]? =
        some ⟨text, token, Progress.extracting job extraction⟩)
    (taken : extraction.take? reply = some later) :
    desk.storedBy (Action.reply call reply) =
      desk.succeeding call text token later := by
  rw [storedBy, waiting]
  simp only [taken, Option.map_some, Option.getD_some]

theorem storedBy_of_silent {desk : Desk} {action : Action}
    (silent : desk.Silent action) : desk.storedBy action = [] := by
  cases action with
  | reply call reply =>
      have unheard := silent call
      rw [heard?, if_pos rfl] at unheard
      rw [storedBy]
      split
      · rename_i text token job extraction waiting
        rw [waiting] at unheard
        rw [Option.map_eq_none_iff.mp unheard]
        rfl
      · rfl
  | _ => rfl

theorem foundBy_eq_filter (desk : Desk) (action : Action) :
    desk.foundBy action =
      (startsIn (desk.step action).1 (desk.step action).2).filter
        fun conversion =>
          desk.processor.cache.contains (keyOf conversion.2) &&
            reaches desk.processor.settings.maxInputLength conversion.2 := by
  rw [foundBy, lookups, List.filter_filter]

/-- What an action other than a reset does to what is remembered, by the
conversions that it finds and those that it stores. -/
inductive Recalls (desk next : Desk) :
    List (Nat × String) → List (Nat × String) → Prop
  | nothing (same : next.processor.cache = desk.processor.cache) :
      Recalls desk next [] []
  | finding {call : Nat} {text : String} {token : Option Token}
      (found : Conversion) (wanted : Bool)
      (accepted : Accepted desk.processor.settings.maxInputLength text)
      (hit : desk.processor.cache.peek? (keyOf text) = some found)
      (moved : next.processor.cache =
        (desk.processor.cache.get? (keyOf text)).2)
      (ended : next.calls[call]? =
        some ⟨text, token, Progress.ended (Processor.commit wanted found)⟩) :
      Recalls desk next [(call, text)] []
  | storing {call : Nat} {text : String} {token : Option Token}
      (result : Conversion)
      (accepted : Accepted desk.processor.settings.maxInputLength text)
      (success : result.failure = none)
      (added : next.processor.cache =
        desk.processor.cache.set (keyOf text) result)
      (ended : next.calls[call]? =
        some ⟨text, token, Progress.ended (some result)⟩) :
      Recalls desk next [] [(call, text)]

/-- The job of a call that waits is named after its text, which is
accepted. -/
theorem job_of_extracting {settings : Settings} {actions : List Action}
    {call : Nat} {text : String} {token : Option Token} {job : Job}
    {extraction : Extraction}
    (waiting :
      (after settings actions).calls[call]? =
        some ⟨text, token, Progress.extracting job extraction⟩) :
    job = Job.ofText text ∧
      Accepted (after settings actions).processor.settings.maxInputLength
        text := by
  have story := story_after settings actions call
  rw [waiting] at story
  obtain ⟨_, _, _, _, missed, named, _, _⟩ := story.of_extracting
  rw [(orderly_after settings actions).fixed]
  exact ⟨named, missed.accepted⟩

theorem cache_closing_of_error (processor : Processor) (job : Job)
    (fault : Fault) (wanted : Bool) :
    (processor.closing job (Except.error fault) wanted).2.2.cache =
      processor.cache := by
  rw [Processor.closing_eq, Processor.remember,
    if_neg (fun both => by cases both.2)]
  rfl

theorem cache_closing_of_ok (processor : Processor) (job : Job)
    (styles : StyleValues) (wanted : Bool) :
    (processor.closing job (Except.ok styles) wanted).2.2.cache =
      if wanted then
        processor.cache.set job.key (Conversion.ofStyles job.classes styles)
      else processor.cache := by
  rw [Processor.closing_eq, Processor.remember]
  cases wanted with
  | true => rfl
  | false => rfl

/-- An action finds one conversion or stores one or does neither, and changes
what is remembered accordingly. -/
theorem recalls_step (settings : Settings) (actions : List Action)
    {action : Action} (kept : action ≠ Action.reset) :
    Recalls (after settings actions) ((after settings actions).step action).1
      ((after settings actions).foundBy action)
      ((after settings actions).storedBy action) := by
  have shows := shows_step (after settings actions) action
  have named := @job_of_extracting settings actions
  rw [foundBy_eq_filter]
  generalize after settings actions = desk at shows named ⊢
  generalize (desk.step action).1 = next at shows ⊢
  generalize (desk.step action).2 = notes at shows ⊢
  -- the two openings may find something, and only a closing may store
  -- something; what is left changes nothing
  cases shows with
  | rest silent =>
      rw [storedBy_of_silent silent]
      cases action with
      | reset => exact absurd rfl kept
      | _ => exact Recalls.nothing rfl
  | @settling call text token result phases processor silent asleep opening =>
      rw [startsIn_opening (calls_turned_self asleep _ _) opening rfl,
        storedBy_of_silent silent]
      have opens := desk.processor.opens text
      rw [opening] at opens
      cases opens with
      | blank empty =>
          rw [List.filter_cons_of_neg (by
            simp [not_reaches_of_blank _ empty])]
          exact Recalls.nothing rfl
      | rejected cause filled failed =>
          rw [List.filter_cons_of_neg (by
            simp [not_reaches_of_rejected failed])]
          exact Recalls.nothing rfl
      | hit found accepted hit =>
          have present : desk.processor.cache.contains (keyOf text) = true := by
            rw [RecencyCache.contains_eq_isSome_peek?, hit]
            rfl
          rw [List.filter_cons_of_pos (by
            simp [present, reaches_of_accepted accepted])]
          exact Recalls.finding result _ accepted hit rfl
            (calls_turned_self asleep _ _)
  | @asking call text token job phases processor silent asleep opening =>
      rw [startsIn_opening (calls_turned_self asleep _ _) opening rfl,
        storedBy_of_silent silent]
      have opens := desk.processor.opens text
      rw [opening] at opens
      cases opens with
      | miss accepted miss =>
          have absent : desk.processor.cache.contains (keyOf text) = false := by
            rw [RecencyCache.contains_eq_isSome_peek?, miss]
            rfl
          rw [List.filter_cons_of_neg (by simp [absent])]
          exact Recalls.nothing rfl
  | dropping woken asleep unwanted =>
      subst woken
      exact Recalls.nothing rfl
  | @goingOn call text token job extraction later reply request answered
      waiting taken asks =>
      subst answered
      rw [storedBy_of_take? waiting taken]
      cases later with
      | ended outcome => cases asks
      | _ => exact Recalls.nothing rfl
  | @closing call text token job extraction reply outcome answered waiting
      taken =>
      subst answered
      rw [startsIn_closing, storedBy_of_take? waiting taken]
      cases outcome with
      | error fault =>
          exact Recalls.nothing (cache_closing_of_error _ _ _ _)
      | ok styles =>
          obtain ⟨rfl, accepted⟩ := named waiting
          have ended := calls_turned_self waiting
            (desk.processor.closing (Job.ofText text) (Except.ok styles)
              (desk.wants token)).2.2
            (Progress.ended (Processor.commit (desk.wants token)
              (Processor.closingResult (Job.ofText text)
                (Except.ok styles)).1))
          have added := cache_closing_of_ok desk.processor (Job.ofText text)
            styles (desk.wants token)
          rw [succeeding]
          cases wanted : desk.wants token with
          | true =>
              rw [wanted] at ended added
              exact Recalls.storing
                (Conversion.ofStyles (classesOf text) styles) accepted rfl
                added ended
          | false =>
              rw [wanted] at added
              exact Recalls.nothing added

/-! ## Touches since the last reset -/

/-- A cache that the touches tell about is told about by one more touch when
the touched conversion has been found or stored. -/
theorem Recalls.reflects {desk next : Desk} {found stored : List (Nat × String)}
    (recalls : Recalls desk next found stored) {capacity : Nat}
    (room : 0 < capacity) {touches : List String}
    (reflects : ∃ value?,
      RecencyCache.Reflects capacity touches value? desk.processor.cache) :
    ∃ value?, RecencyCache.Reflects capacity
      (touches ++ (found ++ stored).map fun conversion => keyOf conversion.2)
      value? next.processor.cache := by
  obtain ⟨value?, reflects⟩ := reflects
  cases recalls with
  | nothing same =>
      rw [same]
      exact ⟨value?, by simpa using reflects⟩
  | @finding call text token found wanted accepted hit moved ended =>
      have present : keyOf text ∈ desk.processor.cache.keys :=
        List.mem_map_of_mem (RecencyCache.mem_entries_of_peek? hit)
      have later := reflects.get room (keyOf text)
      rw [CacheUse.touch, if_pos present] at later
      rw [moved]
      exact ⟨value?, later⟩
  | @storing call text token result accepted success added ended =>
      rw [added]
      exact ⟨_, reflects.set room (keyOf text) result⟩

theorem entries_of_fresh (settings : Settings) {earlier : List Action}
    (fresh : earlier = [] ∨ ∃ older, earlier = older ++ [Action.reset]) :
    (after settings earlier).processor.cache.entries = [] := by
  rcases fresh with rfl | ⟨older, rfl⟩
  · rfl
  · rw [after_concat]
    rfl

theorem reflects_of_fresh (settings : Settings) {earlier : List Action}
    (fresh : earlier = [] ∨ ∃ older, earlier = older ++ [Action.reset]) :
    RecencyCache.Reflects settings.cacheCapacity [] (fun _ => none)
      (after settings earlier).processor.cache := by
  have cleared := entries_of_fresh settings fresh
  refine ⟨(orderly_after settings earlier).capacity,
    ⟨[], ?_, ?_, fun some => absurd rfl some⟩, fun entry member => ?_⟩
  · rw [RecencyCache.keys, cleared]
    rfl
  · rw [RecencyCache.keys, cleared]
    exact Nat.zero_le _
  · rw [cleared] at member
    cases member

/-- The touches since the last reset tell what is remembered. -/
theorem SinceReset.reflects {actions earlier recent : List Action}
    (since : SinceReset actions earlier recent) (settings : Settings) :
    ∃ value?, RecencyCache.Reflects settings.cacheCapacity
      (gather touchedBy (after settings earlier) recent) value?
      (after settings actions).processor.cache := by
  obtain ⟨rfl, fresh, kept⟩ := since
  induction recent using List.reverseRecOn with
  | nil =>
      rw [List.append_nil]
      exact ⟨_, reflects_of_fresh settings fresh⟩
  | append_singleton recent action inductionHypothesis =>
      rw [List.mem_append, List.mem_singleton, not_or] at kept
      have recalls := recalls_step settings (earlier ++ recent)
        (Ne.symm kept.2)
      rw [← List.append_assoc, after_concat, gather_after_concat]
      exact recalls.reflects settings.cacheCapacity_pos
        (inductionHypothesis kept.1)

/-! ## Requests of a conversion that looks its key up -/

/-- A trail only grows. -/
theorem exists_trail_append (settings : Settings) (first second : List Action)
    (call : Nat) :
    ∃ more, trail settings (first ++ second) call =
      (trail settings first call).append more := by
  induction second using List.reverseRecOn with
  | nil => exact ⟨Trail.empty, by rw [List.append_nil, Trail.append_empty]⟩
  | append_singleton second action inductionHypothesis =>
      obtain ⟨more, grown⟩ := inductionHypothesis
      refine ⟨more.append ((after settings (first ++ second)).stride action
        call), ?_⟩
      rw [← List.append_assoc, trail_concat, grown]
      simp [Trail.append, List.append_assoc]

/-- The phases in which a conversion opens when it has looked its key up. -/
def lookupPhases (found : Bool) : List Phase :=
  if found then [Phase.validating, Phase.cacheHit, Phase.succeeded]
  else [Phase.validating, Phase.extracting]

/-- An action opens a conversion that sleeps and looks its key up. -/
structure Looking (desk : Desk) (action : Action) (call : Nat) (text : String) :
    Prop where
  silent : desk.Silent action
  accepted : Accepted desk.processor.settings.maxInputLength text
  asleep : ∃ token, (desk.received action).calls[call]? =
    some ⟨text, token, Progress.asleep⟩
  shows : ∃ last : Note, last.phase? call = none ∧
    (desk.step action).2 =
      notesOf call
        (lookupPhases (desk.processor.cache.contains (keyOf text))) ++ [last]

theorem looking_of_lookup {desk : Desk} {action : Action} {call : Nat}
    {text : String} (lookup : (call, text) ∈ desk.lookups action) :
    Looking desk action call text := by
  obtain ⟨accepted, token, asleep, kept, stepped⟩ := step_of_lookup lookup
  have silent : desk.Silent action := by
    cases action with
    | reply other reply =>
        rw [lookups_eq_accepting] at lookup
        cases lookup
    | _ => exact fun _ => rfl
  refine ⟨silent, accepted, ⟨token, asleep⟩, ?_⟩
  rw [stepped, start, kept, RecencyCache.contains_eq_isSome_peek?]
  cases held : desk.processor.cache.peek? (keyOf text) with
  | some found =>
      rw [desk.processor.opening_of_hit accepted held]
      exact ⟨_, rfl, rfl⟩
  | none =>
      rw [desk.processor.opening_of_miss accepted held]
      exact ⟨_, rfl, rfl⟩

/-- A conversion has shown nothing of itself before its key is looked up. -/
theorem trail_of_lookup {settings : Settings} {before : List Action}
    {action : Action} {call : Nat} {text : String}
    (lookup : (call, text) ∈ (after settings before).lookups action) :
    trail settings before call = Trail.empty := by
  have noticed := (story_after settings before call).received action
  obtain ⟨token, asleep⟩ := (looking_of_lookup lookup).asleep
  rw [asleep] at noticed
  exact noticed.trail_of_asleep

/-- A conversion whose key is looked up begins with the action and shows at
once whether the key was found. -/
theorem phases_of_lookup {settings : Settings} {before : List Action}
    {action : Action} {call : Nat} {text : String}
    (lookup : (call, text) ∈ (after settings before).lookups action) :
    (trail settings (before ++ [action]) call).phases =
      lookupPhases
        ((after settings before).processor.cache.contains (keyOf text)) := by
  obtain ⟨last, unentered, notes⟩ := (looking_of_lookup lookup).shows
  rw [trail_concat, trail_of_lookup lookup, stride, notes]
  simp only [Trail.append, Trail.empty, trailIn, List.nil_append,
    List.filterMap_append, phases_notesOf, List.filterMap_cons, unentered,
    List.filterMap_nil, List.append_nil]

theorem call_of_entered {settings : Settings} {before : List Action}
    {action : Action} {call : Nat} {phase : Phase}
    (entered : Note.entered call phase ∈
      ((after settings before).step action).2) :
    ∃ entry, (after settings (before ++ [action])).calls[call]? = some entry := by
  have story := story_after settings (before ++ [action]) call
  cases here : (after settings (before ++ [action])).calls[call]? with
  | some entry => exact ⟨entry, rfl⟩
  | none =>
      rw [here] at story
      have shown : phase ∈ (trail settings (before ++ [action]) call).phases := by
        rw [trail_concat, stride]
        refine List.mem_append_right _ (List.mem_filterMap.mpr ⟨_, entered, ?_⟩)
        exact if_pos rfl
      rw [story.trail_of_absent] at shown
      cases shown

/-- A conversion of an accepted text looks its key up when it starts. -/
theorem lookup_of_startsAfter {settings : Settings}
    {actions before : List Action} {call : Nat} {entry : Call}
    (starts : StartsAfter settings actions before call)
    (here : (after settings actions).calls[call]? = some entry)
    (accepted : Accepted settings.maxInputLength entry.text) :
    ∃ action rest, actions = before ++ action :: rest ∧
      (call, entry.text) ∈ (after settings before).lookups action := by
  obtain ⟨action, rest, rfl, _, entered⟩ := starts
  obtain ⟨first, begun⟩ := call_of_entered entered
  obtain ⟨progress, later, _⟩ := run_carries begun rest
  rw [← after_append, List.append_assoc, List.singleton_append, here] at later
  obtain rfl := Option.some.inj later
  rw [after_concat] at begun
  rw [← (orderly_after settings before).fixed] at accepted
  refine ⟨action, rest, rfl, List.mem_filter.mpr
    ⟨List.mem_filterMap.mpr ⟨call, List.mem_filterMap.mpr ⟨_, entered, rfl⟩, ?_⟩,
      reaches_of_accepted accepted⟩⟩
  rw [begun]
  rfl

theorem Exchange.requests_ne_nil {classes : String} {extraction : Extraction}
    {requests : List Request} {replies : List Reply}
    (exchange : Exchange classes extraction requests replies) :
    requests ≠ [] := by
  cases exchange <;> exact List.cons_ne_nil _ _

/-- A conversion whose key is looked up makes no request, now or later, exactly
when the key is found. -/
theorem requests_eq_nil_iff_of_lookup {settings : Settings}
    {before : List Action} {action : Action} {call : Nat} {text : String}
    (lookup : (call, text) ∈ (after settings before).lookups action)
    (rest : List Action) :
    (trail settings (before ++ action :: rest) call).requests = [] ↔
      (after settings before).processor.cache.contains (keyOf text) = true := by
  have opened := phases_of_lookup lookup
  obtain ⟨more, grown⟩ :=
    exists_trail_append settings (before ++ [action]) rest call
  rw [List.append_assoc, List.singleton_append] at grown
  have phases :
      (trail settings (before ++ action :: rest) call).phases =
        lookupPhases
          ((after settings before).processor.cache.contains (keyOf text)) ++
            more.phases := by
    rw [grown, Trail.append, opened]
  have story := story_after settings (before ++ action :: rest) call
  generalize trail settings (before ++ action :: rest) call = seen
    at phases story ⊢
  generalize (after settings (before ++ action :: rest)).calls[call]? = entry
    at story
  generalize (after settings before).processor.cache.contains (keyOf text) =
    found at phases ⊢
  -- the first two phases tell which story it is
  cases story with
  | remembered token wanted starts result success regarded accepted present =>
      cases found with
      | true => exact ⟨fun _ => rfl, fun _ => rfl⟩
      | false => cases phases
  | waiting token starts missed exchange =>
      cases found with
      | true => cases phases
      | false =>
          exact ⟨fun none => absurd none exchange.requests_ne_nil,
            fun hit => by cases hit⟩
  | closed token wanted starts missed exchange =>
      cases found with
      | true => cases phases
      | false =>
          exact ⟨fun none => absurd none exchange.requests_ne_nil,
            fun hit => by cases hit⟩
  | _ => cases found <;> cases phases

/-! ## Calls that touch nothing -/

/-- The text of a call was turned away, its conversion has failed, or it has
missed its key and was superseded in the end. -/
def Fruitless (settings : Settings) (actions : List Action) (call : Nat)
    (entry : Call) : Prop :=
  ¬ Accepted settings.maxInputLength entry.text ∨
    (∃ result, entry.progress = Progress.ended (some result) ∧
      result.failure ≠ none) ∨
    (entry.progress = Progress.ended none ∧
      (trail settings actions call).requests ≠ [])

/-- A conversion that touches its key with an action has ended by it.  Its text
is accepted; it was found, or it is a success that is given. -/
theorem ended_of_touching {settings : Settings} {before : List Action}
    {action : Action} {call : Nat} {text : String}
    (touching : (call, text) ∈ (after settings before).foundBy action ++
      (after settings before).storedBy action) :
    Accepted settings.maxInputLength text ∧
      ∃ token answer,
        (after settings (before ++ [action])).calls[call]? =
            some ⟨text, token, Progress.ended answer⟩ ∧
          (∀ result, answer = some result → result.failure = none) ∧
          (answer = none →
            (call, text) ∈ (after settings before).foundBy action) := by
  have kept : action ≠ Action.reset := by
    rintro rfl
    cases touching
  have recalls := recalls_step settings before kept
  have orderly := orderly_after settings before
  rw [after_concat]
  generalize found : (after settings before).foundBy action = hits
    at recalls touching ⊢
  generalize (after settings before).storedBy action = stored
    at recalls touching
  cases recalls with
  | nothing unchanged => cases touching
  | @finding turned other token result wanted accepted hit moved ended =>
      obtain ⟨rfl, rfl⟩ := Prod.mk.inj (List.mem_singleton.mp touching)
      refine ⟨orderly.fixed ▸ accepted, token,
        Processor.commit wanted result, ended, fun given equality => ?_,
        fun _ => List.mem_singleton.mpr rfl⟩
      rw [Processor.commit] at equality
      split at equality
      · obtain rfl := Option.some.inj equality
        exact (orderly.found hit).1
      · cases equality
  | @storing turned other token result accepted success added ended =>
      obtain ⟨rfl, rfl⟩ := Prod.mk.inj (List.mem_singleton.mp touching)
      refine ⟨orderly.fixed ▸ accepted, token, some result, ended,
        fun given equality => ?_, fun nothing => by cases nothing⟩
      obtain rfl := Option.some.inj equality
      exact success

theorem requests_of_foundBy {settings : Settings} {before : List Action}
    {action : Action} {call : Nat} {text : String}
    (found : (call, text) ∈ (after settings before).foundBy action)
    (rest : List Action) :
    (trail settings (before ++ action :: rest) call).requests = [] := by
  obtain ⟨lookup, present⟩ := List.mem_filter.mp found
  exact (requests_eq_nil_iff_of_lookup lookup rest).mpr present

theorem not_touching_of_fruitless {settings : Settings}
    {before rest : List Action} {action : Action} {call : Nat} {entry : Call}
    (here :
      (after settings (before ++ action :: rest)).calls[call]? = some entry)
    (fruitless :
      Fruitless settings (before ++ action :: rest) call entry)
    (text : String) :
    (call, text) ∉ (after settings before).foundBy action ++
      (after settings before).storedBy action := by
  intro touching
  obtain ⟨accepted, token, answer, ended, success, given⟩ :=
    ended_of_touching touching
  obtain ⟨progress, later, kept⟩ := run_carries ended rest
  rw [← after_append, List.append_assoc, List.singleton_append, here]
    at later
  obtain rfl := Option.some.inj later
  obtain rfl := kept answer rfl
  rcases fruitless with rejected | ⟨result, failing, failure⟩ |
    ⟨superseded, asked⟩
  · exact rejected accepted
  · exact failure (success result (Progress.ended.inj failing))
  · exact asked
      (requests_of_foundBy (given (Progress.ended.inj superseded)) rest)

/-! ## Converting again -/

theorem isBlankText_of_keyOf_eq {text other : String}
    (same : keyOf other = keyOf text)
    (empty : ClassText.isBlankText text.toList = true) :
    ClassText.isBlankText other.toList = true := by
  have keys : ClassText.key other.toList = ClassText.key text.toList :=
    String.ofList_injective same
  rw [ClassText.isBlankText, ← ClassText.key, keys]
  exact empty

theorem of_ended_mem {call other : Nat} {phases : List Phase}
    {answer shown : Option Conversion}
    (ended : Note.ended call answer ∈
      notesOf other phases ++ [Note.ended other shown]) :
    other = call ∧ shown = answer := by
  rcases List.mem_append.mp ended with entered | last
  · obtain ⟨phase, _, equality⟩ := List.mem_map.mp entered
    cases equality
  · cases List.mem_singleton.mp last
    exact ⟨rfl, rfl⟩

theorem not_ended_mem {call other : Nat} {phases : List Phase}
    {answer : Option Conversion} {request : Request} :
    Note.ended call answer ∉
      notesOf other phases ++ [Note.asked other request] := by
  intro ended
  rcases List.mem_append.mp ended with entered | last
  · obtain ⟨phase, _, equality⟩ := List.mem_map.mp entered
    cases equality
  · cases List.mem_singleton.mp last

/-- A success that is given is remembered from then on, unless its text is
blank. -/
theorem remembered_of_ended {settings : Settings} {before : List Action}
    {action : Action} {call : Nat} {result : Conversion}
    (given : Note.ended call (some result) ∈
      ((after settings before).step action).2)
    (success : result.failure = none) :
    ∃ text token,
      (after settings (before ++ [action])).calls[call]? =
          some ⟨text, token, Progress.ended (some result)⟩ ∧
        (ClassText.isBlankText text.toList = true ∨
          (after settings (before ++ [action])).processor.cache.peek?
            (keyOf text) = some result) := by
  have shows := shows_step (after settings before) action
  have named := @job_of_extracting settings before
  rw [after_concat]
  generalize after settings before = desk at shows named given ⊢
  generalize (desk.step action).1 = next at shows ⊢
  generalize (desk.step action).2 = notes at shows given
  cases shows with
  | rest silent => cases given
  | @settling turned text token found phases processor silent asleep opening =>
      obtain ⟨rfl, answered⟩ := of_ended_mem given
      obtain rfl := commit_eq_some answered
      refine ⟨text, token, ?_, ?_⟩
      · rw [calls_turned_self asleep, answered]
      · have opens := desk.processor.opens text
        rw [opening] at opens
        cases opens with
        | blank empty => exact Or.inl empty
        | rejected cause filled failed => cases success
        | hit result accepted hit =>
            exact Or.inr (RecencyCache.peek?_get? hit)
  | asking silent asleep opening => exact absurd given not_ended_mem
  | dropping woken asleep unwanted => cases List.mem_singleton.mp given
  | goingOn answered waiting taken asks =>
      cases List.mem_singleton.mp given
  | @closing turned text token job extraction reply outcome answered waiting
      taken =>
      obtain ⟨rfl, committed⟩ := of_ended_mem given
      obtain ⟨rfl, accepted⟩ := named waiting
      obtain rfl := commit_eq_some committed
      refine ⟨text, token, ?_, Or.inr ?_⟩
      · rw [calls_turned_self waiting, committed]
      · cases outcome with
        | error fault => cases success
        | ok styles =>
            have wanted : desk.wants token = true := by
              rw [Processor.commit] at committed
              split at committed
              · assumption
              · cases committed
            rw [turned_processor, cache_closing_of_ok, if_pos wanted]
            exact RecencyCache.peek?_set _ _ _

theorem asleep_of_convert (desk : Desk) (text : String)
    (token : Option Token) :
    (desk.addCall text token).calls[desk.calls.length]? =
      some ⟨text, token, Progress.asleep⟩ :=
  received_of_arrival?
    (rfl : desk.arrival? (Action.convert text token) =
      some ⟨text, token, Progress.asleep⟩)

theorem lookups_convert (desk : Desk) {text : String}
    (accepted : Accepted desk.processor.settings.maxInputLength text)
    (token : Option Token) :
    desk.lookups (Action.convert text token) =
      [(desk.calls.length, text)] := by
  rw [lookups_eq_accepting]
  exact List.filter_cons_of_pos (reaches_of_accepted accepted)

theorem opened_of_settled {desk : Desk} {text : String} {result : Conversion}
    (settled : (desk.processor.opening text).1 = Opening.settled result)
    (token : Option Token) :
    desk.opened text token =
      Progress.ended (Processor.commit (desk.wants token) result) := by
  rw [opened, settled]

/-- What is remembered under the key of an accepted text is what a conversion
of it gives. -/
theorem answer?_convert_of_hit (desk : Desk) {text : String}
    {found : Conversion}
    (accepted : Accepted desk.processor.settings.maxInputLength text)
    (hit : desk.processor.cache.peek? (keyOf text) = some found)
    (token : Option Token) :
    (desk.step (Action.convert text token)).1.answer? desk.calls.length =
      some (Processor.commit (desk.wants token) found) := by
  have opened : (desk.addCall text token).opened text token =
      Progress.ended (Processor.commit (desk.wants token) found) :=
    opened_of_settled
      (congrArg Prod.fst (desk.processor.opening_of_hit accepted hit)) token
  rw [step, start_eq, opened]
  exact (answer?_eq_some_iff _ _ _).mpr
    ⟨_, calls_turned_self (desk.asleep_of_convert text token) _ _, rfl⟩

/-! ## All conversions together -/

/-- The keys touched since the last reset, in the order of the touches. -/
def touches (settings : Settings) (earlier recent : List Action) :
    List String :=
  gather touchedBy (after settings earlier) recent

/-- When conversions are answered from memory, and what that needs. -/
structure Remembering (settings : Settings) (actions : List Action) : Prop
    where
  /-- A conversion of an accepted text looks its key up at once. -/
  looks : ∀ before text token rest,
    actions = before ++ Action.convert text token :: rest →
      Accepted settings.maxInputLength text →
        (after settings before).lookups (Action.convert text token) =
          [((after settings before).calls.length, text)]
  /-- So does every call that starts, whenever it does. -/
  begins : ∀ before (call : Nat) entry, StartsAfter settings actions before call →
    (after settings actions).calls[call]? = some entry →
      Accepted settings.maxInputLength entry.text →
        ∃ action rest, actions = before ++ action :: rest ∧
          (call, entry.text) ∈ (after settings before).lookups action
  split : ∀ before rest, actions = before ++ rest →
    ∃ earlier recent, SinceReset before earlier recent
  /-- A conversion whose key is looked up makes no request exactly when the key
  has been touched since the last reset, and fewer other keys than there is
  room for have been touched after it. -/
  unasked : ∀ before action rest, actions = before ++ action :: rest →
    ∀ call text, (call, text) ∈ (after settings before).lookups action →
      ∀ earlier recent, SinceReset before earlier recent →
        ((trail settings actions call).requests = [] ↔
          keyOf text ∈ touches settings earlier recent ∧
            (afterLast (keyOf text)
              (touches settings earlier recent)).dedup.length <
              settings.cacheCapacity)
  /-- Nothing but a touch and a reset changes what is remembered. -/
  untouched : ∀ before action rest, actions = before ++ action :: rest →
    action ≠ Action.reset → (after settings before).touchedBy action = [] →
      (after settings (before ++ [action])).processor.cache =
        (after settings before).processor.cache
  /-- Calls whose text is turned away, whose conversion fails, or which end
  superseded after a miss touch nothing. -/
  fruitless : ∀ call entry, (after settings actions).calls[call]? = some entry →
    Fruitless settings actions call entry →
      ∀ before action rest, actions = before ++ action :: rest → ∀ text,
        (call, text) ∉ (after settings before).foundBy action ++
          (after settings before).storedBy action
  /-- A text with the key of a conversion that has just succeeded gives the same
  result without a request. -/
  again : ∀ before action text token rest,
    actions = before ++ action :: Action.convert text token :: rest →
      ∀ (call : Nat) entry result,
        Note.ended call (some result) ∈
            ((after settings before).step action).2 →
          result.failure = none →
            (after settings (before ++ [action])).calls[call]? = some entry →
              Accepted settings.maxInputLength text →
                keyOf text = keyOf entry.text →
                  (after settings actions).answer?
                        (after settings (before ++ [action])).calls.length =
                      some (Processor.commit
                        ((after settings (before ++ [action])).wants token)
                        result) ∧
                    (trail settings actions
                      (after settings (before ++ [action])).calls.length
                      ).requests = []

theorem remembering_after (settings : Settings) (actions : List Action) :
    Remembering settings actions where
  looks before text token rest _ accepted := by
    rw [← (orderly_after settings before).fixed] at accepted
    exact lookups_convert _ accepted token
  begins _ _ _ starts here accepted := lookup_of_startsAfter starts here accepted
  split before _ _ := exists_sinceReset before
  unasked := by
    rintro before action rest rfl call text lookup earlier recent since
    obtain ⟨value?, reflects⟩ := since.reflects settings
    rw [requests_eq_nil_iff_of_lookup lookup, RecencyCache.contains_iff,
      touches, reflects.mem_keys_iff]
  untouched before action rest _ kept nothing := by
    have recalls := recalls_step settings before kept
    rw [touchedBy, List.map_eq_nil_iff] at nothing
    rw [after_concat]
    generalize (after settings before).foundBy action = found
      at recalls nothing
    generalize (after settings before).storedBy action = stored
      at recalls nothing
    cases recalls with
    | nothing same => exact same
    | finding found wanted accepted hit moved ended => cases nothing
    | storing result accepted success added ended => cases nothing
  fruitless := by
    rintro call entry here fruitless before action rest rfl text
    exact not_touching_of_fruitless here fruitless text
  again := by
    rintro before action text token rest rfl call entry result given success
      here accepted same
    obtain ⟨other, _, ended, remembered⟩ :=
      remembered_of_ended given success
    obtain rfl := Option.some.inj (here.symm.trans ended)
    have accepted' := accepted
    rw [← (orderly_after settings (before ++ [action])).fixed] at accepted'
    have hit : (after settings (before ++ [action])).processor.cache.peek?
        (keyOf text) = some result := by
      rcases remembered with empty | remembered
      · have blank := isBlankText_of_keyOf_eq same empty
        exact absurd (accepted.filled.symm.trans blank) (by decide)
      · rwa [same]
    have split : before ++ action :: Action.convert text token :: rest =
        (before ++ [action]) ++ Action.convert text token :: rest := by simp
    have lookup := lookups_convert _ accepted' token
    refine ⟨?_, ?_⟩
    · rw [split, after_append, run_cons]
      exact answer?_run (answer?_convert_of_hit _ accepted' hit token) rest
    · rw [split, requests_eq_nil_iff_of_lookup
        (lookup ▸ List.mem_singleton.mpr rfl),
        RecencyCache.contains_eq_isSome_peek?, hit]
      rfl

end Desk

end UtilityCss

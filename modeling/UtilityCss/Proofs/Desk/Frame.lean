import UtilityCss.Proofs.Desk.LatestWins
import UtilityCss.Proofs.Desk.Reset
import UtilityCss.Proofs.RecencyCache.Inclusion

/-!
# What a superseded call leaves behind

A call learns that it is superseded only when it ends, and by then it has looked
its key up and asked its resolver, while other calls used the same cache.  What it
leaves behind is looked at step by step: an action that gives another call its turn
is no step of this call, and of its own steps only the lookup can be seen at all.
-/

namespace UtilityCss

namespace RecencyCache

variable {κ : Type u} {ν : Type v} [DecidableEq κ]

omit [DecidableEq κ] in
theorem nodup_entries {cache : RecencyCache κ ν} (distinct : cache.keys.Nodup) :
    cache.entries.Nodup :=
  List.Nodup.of_map Prod.fst distinct

/-- Moving an entry to the end keeps all entries. -/
theorem perm_erase_push {cache : RecencyCache κ ν}
    (distinct : cache.keys.Nodup) {key : κ} {value : ν}
    (held : (key, value) ∈ cache.entries) :
    ((cache.erase key).push key value).entries.Perm cache.entries := by
  have apart : ((cache.erase key).push key value).keys.Nodup := by
    rw [keys_push, keys_erase, List.nodup_append_comm, List.singleton_append,
      List.nodup_cons]
    exact ⟨by simp, distinct.filter _⟩
  refine (List.perm_ext_iff_of_nodup (nodup_entries apart)
    (nodup_entries distinct)).mpr fun entry => ?_
  rw [push, erase, List.mem_append, List.mem_filter, List.mem_singleton]
  constructor
  · rintro (⟨member, _⟩ | rfl)
    · exact member
    · exact held
  · intro member
    by_cases same : entry.1 = key
    · obtain ⟨other, found⟩ := entry
      obtain rfl : other = key := same
      exact Or.inr (by rw [value_unique distinct member held])
    · exact Or.inl ⟨member, decide_eq_true same⟩

end RecencyCache

namespace Desk

/-! ## What a call has not shown -/

theorem Trail.eq_empty_of_append {trail more : Trail}
    (unseen : trail.append more = Trail.empty) :
    trail = Trail.empty ∧ more = Trail.empty := by
  obtain ⟨phases, requests, replies⟩ := Trail.mk.inj unseen
  obtain ⟨phases, morePhases⟩ := List.append_eq_nil_iff.mp phases
  obtain ⟨requests, moreRequests⟩ := List.append_eq_nil_iff.mp requests
  obtain ⟨replies, moreReplies⟩ := List.append_eq_nil_iff.mp replies
  constructor
  · rw [Trail.empty, ← phases, ← requests, ← replies]
  · rw [Trail.empty, ← morePhases, ← moreRequests, ← moreReplies]

/-- What a call has not shown in the end it has not shown before. -/
theorem trail_eq_empty_of_append {settings : Settings}
    {actions more : List Action} {call : Nat}
    (unseen : trail settings (actions ++ more) call = Trail.empty) :
    trail settings actions call = Trail.empty := by
  obtain ⟨later, grown⟩ := exists_trail_append settings actions more call
  rw [grown] at unseen
  exact (Trail.eq_empty_of_append unseen).1

theorem stride_of_trail_empty {settings : Settings}
    {before rest : List Action} {action : Action} {call : Nat}
    (unseen : trail settings (before ++ action :: rest) call = Trail.empty) :
    (after settings before).stride action call = Trail.empty := by
  rw [← List.singleton_append, ← List.append_assoc] at unseen
  have begun := trail_eq_empty_of_append unseen
  rw [trail_concat] at begun
  exact (Trail.eq_empty_of_append begun).2

/-! ## Whose turn it is -/

/-- The call that an action is a step of. -/
def turning? (desk : Desk) : Action → Option Nat
  | Action.convert _ _ => some desk.calls.length
  | Action.submit _ _ _ => some desk.calls.length
  | Action.wake call => some call
  | Action.reply call _ => some call
  | _ => none

section Bystanding

variable {desk : Desk} {turned call : Nat} (different : turned ≠ call)

include different

theorem calls_start_of_ne (text : String) (token : Option Token) :
    (desk.start turned text token).1.calls[call]? = desk.calls[call]? := by
  rw [start_eq]
  exact calls_turned_of_ne desk different _ _

theorem trailIn_start_of_ne (text : String) (token : Option Token) :
    trailIn call (desk.start turned text token).2 [] = Trail.empty := by
  rw [start]
  rcases desk.processor.opening text with ⟨result | job, phases, processor⟩
  · exact trailIn_ended_of_ne call phases different _
  · exact trailIn_asked_of_ne call phases different _

theorem calls_continueWith_of_ne (token : Option Token) (job : Job)
    (extraction : Extraction) :
    (desk.continueWith turned token job extraction).1.calls[call]? =
      desk.calls[call]? := by
  rw [continueWith_eq]
  exact calls_turned_of_ne desk different _ _

theorem trailIn_continueWith_of_ne (token : Option Token) (job : Job)
    (extraction : Extraction) :
    trailIn call (desk.continueWith turned token job extraction).2 [] =
      Trail.empty := by
  cases extraction with
  | ended outcome => exact trailIn_ended_of_ne call _ different _
  | creating classes => exact trailIn_asked_of_ne call [] different _
  | computing context => exact trailIn_asked_of_ne call [] different _
  | destroying context outcome =>
      exact trailIn_asked_of_ne call [] different _

end Bystanding

theorem calls_addCall_of_ne {desk : Desk} {call : Nat}
    (different : desk.calls.length ≠ call) (text : String)
    (token : Option Token) :
    (desk.addCall text token).calls[call]? = desk.calls[call]? := by
  rw [addCall, List.getElem?_append]
  split
  · rfl
  · have beyond : desk.calls.length < call := by omega
    rw [List.getElem?_eq_none (by simp; omega),
      List.getElem?_eq_none (Nat.le_of_lt beyond)]

/-- An action leaves every call alone that it is no step of. -/
theorem step_of_not_turning {desk : Desk} {action : Action} {call : Nat}
    (other : desk.turning? action ≠ some call) :
    (desk.step action).1.calls[call]? = desk.calls[call]? ∧
      desk.stride action call = Trail.empty := by
  have unlike : ∀ turned, desk.turning? action = some turned →
      turned ≠ call := by
    rintro turned turning rfl
    exact other turning
  cases action with
  | issue dispatcher => exact ⟨rfl, rfl⟩
  | cancel dispatcher => exact ⟨rfl, rfl⟩
  | reset => exact ⟨rfl, rfl⟩
  | convert text token =>
      have different := unlike _ rfl
      have kept :
          ((desk.addCall text token).start desk.calls.length text
              token).1.calls[call]? =
            (desk.addCall text token).calls[call]? :=
        calls_start_of_ne different text token
      exact ⟨kept.trans (calls_addCall_of_ne different text token),
        trailIn_start_of_ne different text token⟩
  | submit dispatcher text delayed =>
      have different : (desk.advance dispatcher).calls.length ≠ call :=
        unlike _ rfl
      have arrived := calls_addCall_of_ne different text
        (some ((desk.advance dispatcher).latest dispatcher))
      cases delayed with
      | true => exact ⟨arrived, rfl⟩
      | false =>
          exact ⟨(calls_start_of_ne different text _).trans arrived,
            trailIn_start_of_ne different text _⟩
  | wake turned =>
      have different := unlike _ rfl
      have silent : desk.heard? call (Action.wake turned) = none := rfl
      rw [stride, silent, step, wake, Option.toList_none]
      split
      · split
        · exact ⟨calls_start_of_ne different _ _,
            trailIn_start_of_ne different _ _⟩
        · exact ⟨calls_turned_of_ne desk different desk.processor _,
            trailIn_ended_of_ne call [] different none⟩
      · exact ⟨rfl, rfl⟩
  | reply turned reply =>
      have different := unlike _ rfl
      rw [stride, heard?_of_ne desk different reply, step, Option.toList_none]
      split
      · split
        · exact ⟨calls_continueWith_of_ne different _ _ _,
            trailIn_continueWith_of_ne different _ _ _⟩
        · exact ⟨rfl, rfl⟩
      · exact ⟨rfl, rfl⟩

theorem trail_ne_empty_of_lookup {settings : Settings} {before : List Action}
    {action : Action} {call : Nat} {text : String}
    (lookup : (call, text) ∈ (after settings before).lookups action) :
    trail settings (before ++ [action]) call ≠ Trail.empty := by
  intro unseen
  have phases := phases_of_lookup lookup
  rw [unseen, lookupPhases] at phases
  split at phases
  · cases phases
  · cases phases

/-- The conversion that looks its key up with an action is the one that the action
is a step of. -/
theorem turning_of_lookup {settings : Settings} {before : List Action}
    {action : Action} {call : Nat} {text : String}
    (lookup : (call, text) ∈ (after settings before).lookups action) :
    (after settings before).turning? action = some call := by
  by_contra other
  apply trail_ne_empty_of_lookup lookup
  rw [trail_concat, trail_of_lookup lookup, (step_of_not_turning other).2]
  rfl

theorem turning_of_storedBy {desk : Desk} {action : Action} {call : Nat}
    {text : String} (stored : (call, text) ∈ desk.storedBy action) :
    desk.turning? action = some call := by
  cases action with
  | reply turned reply =>
      rw [storedBy] at stored
      split at stored
      · rename_i found token job extraction waiting
        cases taken : extraction.take? reply with
        | none =>
            rw [taken] at stored
            cases stored
        | some later =>
            rw [taken, Option.map_some, Option.getD_some] at stored
            obtain ⟨rfl, rfl⟩ := of_mem_succeeding stored
            rfl
      · cases stored
  | _ => cases stored

/-- An action opens one conversion at most. -/
theorem lookups_cases (desk : Desk) (action : Action) :
    desk.lookups action = [] ∨
      ∃ call text, desk.lookups action = [(call, text)] := by
  rw [lookups_eq_accepting, accepting]
  cases desk.starting? action with
  | none => exact Or.inl rfl
  | some start =>
      obtain ⟨call, text⟩ := start
      by_cases reached :
          reaches desk.processor.settings.maxInputLength text = true
      · exact Or.inr ⟨call, text, List.filter_cons_of_pos reached⟩
      · exact Or.inl (List.filter_cons_of_neg reached)

/-! ## A step of a call that gives nothing -/

/-- What a step of a call with the text may do to the processor when it stores
nothing: at most its lookup can be seen. -/
inductive Traceless (desk next : Desk) (text : String) : Prop where
  | still (cache : next.processor.cache = desk.processor.cache)
      (hits : next.processor.hits = desk.processor.hits)
      (misses : next.processor.misses = desk.processor.misses)
  | hit {value : Conversion}
      (held : (keyOf text, value) ∈ desk.processor.cache.entries)
      (moved : next.processor.cache =
        (desk.processor.cache.erase (keyOf text)).push (keyOf text) value)
      (hits : next.processor.hits = desk.processor.hits + 1)
      (misses : next.processor.misses = desk.processor.misses)
  | miss (absent : keyOf text ∉ desk.processor.cache.keys)
      (cache : next.processor.cache = desk.processor.cache)
      (hits : next.processor.hits = desk.processor.hits)
      (misses : next.processor.misses = desk.processor.misses + 1)

theorem Traceless.perm_entries {desk next : Desk} {text : String}
    (traceless : Traceless desk next text)
    (distinct : desk.processor.cache.keys.Nodup) :
    next.processor.cache.entries.Perm desk.processor.cache.entries := by
  cases traceless with
  | still cache hits misses => rw [cache]
  | miss absent cache hits misses => rw [cache]
  | hit held moved hits misses =>
      rw [moved]
      exact RecencyCache.perm_erase_push distinct held

theorem nodup_keys_after (settings : Settings) (actions : List Action) :
    (after settings actions).processor.cache.keys.Nodup := by
  obtain ⟨earlier, recent, since⟩ := exists_sinceReset actions
  exact since.nodup_keys settings

section Stepping

variable {settings : Settings} {before rest : List Action} {action : Action}
variable {call : Nat} {entry : Call}

/-- A call keeps its text, and an answer that it has. -/
theorem kept_of_begun {first : Call}
    (begun :
      (after settings (before ++ [action])).calls[call]? = some first)
    (here :
      (after settings (before ++ action :: rest)).calls[call]? = some entry) :
    entry.text = first.text ∧
      ∀ answer, first.progress = Progress.ended answer →
        entry.progress = Progress.ended answer := by
  obtain ⟨progress, later, kept⟩ := run_carries begun rest
  rw [← after_append, List.append_assoc, List.singleton_append, here]
    at later
  obtain rfl := Option.some.inj later
  exact ⟨rfl, kept⟩

/-- A call that ends with nothing has stored nothing. -/
theorem storedBy_eq_nil_of_superseded
    (here :
      (after settings (before ++ action :: rest)).calls[call]? = some entry)
    (superseded : entry.progress = Progress.ended none)
    (turning : (after settings before).turning? action = some call) :
    (after settings before).storedBy action = [] := by
  rw [List.eq_nil_iff_forall_not_mem]
  rintro ⟨other, text⟩ stored
  obtain rfl := Option.some.inj
    (turning.symm.trans (turning_of_storedBy stored))
  obtain ⟨_, token, answer, ended, _, given⟩ :=
    ended_of_touching (List.mem_append_right _ stored)
  have finished := (kept_of_begun ended here).2 answer rfl
  -- it would have been found as well, and then it could not have waited
  have found := given (Progress.ended.inj (finished.symm.trans superseded))
  have silent := (looking_of_lookup (List.mem_filter.mp found).1).silent
  rw [storedBy_of_silent silent] at stored
  cases stored

theorem text_of_lookup {text : String}
    (here :
      (after settings (before ++ action :: rest)).calls[call]? = some entry)
    (lookup : (call, text) ∈ (after settings before).lookups action) :
    entry.text = text := by
  obtain ⟨token, asleep⟩ := (looking_of_lookup lookup).asleep
  obtain ⟨progress, begun, _⟩ := (turn_step _ action).carries asleep
  rw [← after_concat] at begun
  exact (kept_of_begun begun here).1

theorem traceless_step
    (here :
      (after settings (before ++ action :: rest)).calls[call]? = some entry)
    (superseded : entry.progress = Progress.ended none)
    (turning : (after settings before).turning? action = some call) :
    Traceless (after settings before) (after settings (before ++ [action]))
      entry.text := by
  have kept : action ≠ Action.reset := by
    rintro rfl
    cases turning
  have unstored := storedBy_eq_nil_of_superseded here superseded turning
  have recalls := recalls_step settings before kept
  have counted := counted_step (after settings before) kept
  have hits := counted.hits
  have misses := counted.misses
  rw [unstored] at recalls
  rw [← after_concat] at recalls hits misses
  rcases lookups_cases (after settings before) action with none | ⟨other, text, one⟩
  · rw [foundBy, none] at recalls hits
    rw [missedBy, none] at misses
    cases recalls with
    | nothing same => exact Traceless.still same hits misses
  · have lookup : (other, text) ∈ (after settings before).lookups action :=
      one ▸ List.mem_singleton.mpr rfl
    obtain rfl := Option.some.inj
      (turning.symm.trans (turning_of_lookup lookup))
    obtain rfl := text_of_lookup here lookup
    rw [foundBy, one] at recalls hits
    rw [missedBy, one] at misses
    by_cases present :
        (after settings before).processor.cache.contains (keyOf entry.text) =
          true
    · rw [List.filter_cons_of_pos (by simpa using present)] at recalls hits
      rw [List.filter_cons_of_neg (by simp [present])] at misses
      cases recalls with
      | finding found wanted accepted hit moved ended =>
          rw [RecencyCache.get?, hit] at moved
          exact Traceless.hit (RecencyCache.mem_entries_of_peek? hit) moved
            hits misses
    · rw [List.filter_cons_of_neg (by simpa using present)] at recalls hits
      rw [List.filter_cons_of_pos (by simpa using present)] at misses
      have absent : keyOf entry.text ∉
          (after settings before).processor.cache.keys := fun member =>
        present ((RecencyCache.contains_iff _ _).mpr member)
      cases recalls with
      | nothing same => exact Traceless.miss absent same hits misses

end Stepping

/-- A call that has looked its key up does not do so again. -/
theorem lookups_eq_nil_of_lookup {settings : Settings}
    {before between : List Action} {action later : Action} {call : Nat}
    {text : String}
    (lookup : (call, text) ∈ (after settings before).lookups action)
    (turning :
      (after settings (before ++ action :: between)).turning? later =
        some call) :
    (after settings (before ++ action :: between)).lookups later = [] := by
  rw [List.eq_nil_iff_forall_not_mem]
  rintro ⟨other, found⟩ again
  obtain rfl := Option.some.inj
    (turning.symm.trans (turning_of_lookup again))
  have unseen := trail_of_lookup again
  rw [← List.singleton_append, ← List.append_assoc] at unseen
  exact trail_ne_empty_of_lookup lookup (trail_eq_empty_of_append unseen)

/-! ## A submission that sleeps -/

/-- A call that is there already is woken or gets a reply. -/
theorem eq_wake_or_reply_of_turning {desk : Desk} {action : Action}
    {call : Nat} {entry : Call} (here : desk.calls[call]? = some entry)
    (turning : desk.turning? action = some call) :
    action = Action.wake call ∨ ∃ reply, action = Action.reply call reply := by
  obtain ⟨inside, _⟩ := List.getElem?_eq_some_iff.mp here
  cases action with
  | wake turned =>
      obtain rfl := Option.some.inj turning
      exact Or.inl rfl
  | reply turned reply =>
      obtain rfl := Option.some.inj turning
      exact Or.inr ⟨reply, rfl⟩
  | convert text token =>
      exact absurd (Option.some.inj turning) (Nat.ne_of_gt inside)
  | submit dispatcher text delayed =>
      exact absurd (Option.some.inj turning) (Nat.ne_of_gt inside)
  | _ => cases turning

/-- A call that sleeps is not disturbed until it is woken. -/
theorem asleep_run {desk : Desk} {call : Nat} {text : String}
    {token : Option Token} {actions : List Action}
    (asleep : desk.calls[call]? = some ⟨text, token, Progress.asleep⟩)
    (unwoken : Action.wake call ∉ actions) :
    (desk.run actions).1.calls[call]? =
      some ⟨text, token, Progress.asleep⟩ := by
  induction actions generalizing desk with
  | nil => exact asleep
  | cons action actions inductionHypothesis =>
      rw [List.mem_cons, not_or] at unwoken
      rw [run_cons]
      refine inductionHypothesis ?_ unwoken.2
      by_cases turning : desk.turning? action = some call
      · rcases eq_wake_or_reply_of_turning asleep turning with
          rfl | ⟨reply, rfl⟩
        · exact absurd rfl unwoken.1
        · rw [step, asleep]
          exact asleep
      · rw [(step_of_not_turning turning).1]
        exact asleep

/-- A call that has ended shows nothing more. -/
theorem stride_of_ended {desk : Desk} {call : Nat} {text : String}
    {token : Option Token} {answer : Option Conversion}
    (here : desk.calls[call]? = some ⟨text, token, Progress.ended answer⟩)
    (action : Action) : desk.stride action call = Trail.empty := by
  by_cases turning : desk.turning? action = some call
  · rcases eq_wake_or_reply_of_turning here turning with rfl | ⟨reply, rfl⟩
    · rw [stride, step, wake, here]
      rfl
    · rw [stride, step, heard?, if_pos rfl, here]
      rfl
  · exact (step_of_not_turning turning).2

theorem trail_append_of_ended {settings : Settings} {actions : List Action}
    {call : Nat} {text : String} {token : Option Token}
    {answer : Option Conversion}
    (here :
      (after settings actions).calls[call]? =
        some ⟨text, token, Progress.ended answer⟩)
    (more : List Action) :
    trail settings (actions ++ more) call = trail settings actions call := by
  induction more using List.reverseRecOn with
  | nil => rw [List.append_nil]
  | append_singleton more action inductionHypothesis =>
      obtain ⟨progress, later, kept⟩ := run_carries here more
      obtain rfl := kept answer rfl
      rw [← after_append] at later
      rw [← List.append_assoc, trail_concat, inductionHypothesis,
        stride_of_ended later, Trail.append_empty]

theorem trailIn_start (desk : Desk) (call : Nat) (text : String)
    (token : Option Token) (replies : List Reply) :
    trailIn call (desk.start call text token).2 replies ≠ Trail.empty := by
  intro unseen
  have entered := entered_of_start desk call text token
  have phases := (Trail.mk.inj unseen).1
  rw [List.filterMap_eq_nil_iff] at phases
  have shown := phases _ entered
  rw [Note.phase?, if_pos rfl] at shown
  cases shown

/-- A step of a call that shows nothing leaves the processor alone. -/
theorem processor_step_of_unseen {desk : Desk} {action : Action} {call : Nat}
    (turning : desk.turning? action = some call)
    (unseen : desk.stride action call = Trail.empty) :
    (desk.step action).1.processor = desk.processor := by
  rw [stride] at unseen
  cases action with
  | convert text token =>
      obtain rfl := Option.some.inj turning
      exact absurd unseen (trailIn_start _ _ text token _)
  | submit dispatcher text delayed =>
      cases delayed with
      | true => rfl
      | false =>
          obtain rfl := Option.some.inj turning
          exact absurd unseen (trailIn_start _ _ text _ _)
  | wake turned =>
      obtain rfl := Option.some.inj turning
      rw [step, wake] at unseen ⊢
      split
      · rename_i text token asleep
        simp only [asleep] at unseen
        split
        · rename_i wanted
          rw [if_pos wanted] at unseen
          exact absurd unseen (trailIn_start _ _ _ _ _)
        · rfl
      · rfl
  | reply turned reply =>
      obtain rfl := Option.some.inj turning
      have replies := (Trail.mk.inj unseen).2.2
      have unheard : desk.heard? turned (Action.reply turned reply) = none :=
        Option.toList_eq_nil_iff.mp replies
      rw [heard?, if_pos rfl] at unheard
      rw [step]
      split
      · rename_i waiting
        rw [waiting] at unheard
        rw [Option.map_eq_none_iff.mp unheard]
      · rfl
  | _ => cases turning

/-- A submission that sleeps and is superseded before it is woken ends with
nothing and has shown nothing. -/
theorem ended_of_overtaken {settings : Settings}
    {before between : List Action} (rest : List Action) {dispatcher : Nat}
    (text : String)
    (unwoken :
      Action.wake (after settings before).calls.length ∉ between)
    (overtaken : ∃ action ∈ between, action.advances dispatcher = true) :
    (after settings
          (before ++ Action.submit dispatcher text true ::
            (between ++ Action.wake (after settings before).calls.length ::
              rest))).answer?
        (after settings before).calls.length = some none ∧
      trail settings
          (before ++ Action.submit dispatcher text true ::
            (between ++ Action.wake (after settings before).calls.length ::
              rest))
          (after settings before).calls.length = Trail.empty := by
  generalize place : (after settings before).calls.length = call at unwoken ⊢
  let token := ((after settings before).advance dispatcher).latest dispatcher
  let sleeping := before ++ Action.submit dispatcher text true :: between
  have handed :
      (after settings before).issued? (Action.submit dispatcher text true) =
        some token := rfl
  have asleep :
      (after settings sleeping).calls[call]? =
        some ⟨text, some token, Progress.asleep⟩ := by
    have arrived :
        ((after settings before).step
            (Action.submit dispatcher text true)).1.calls[call]? =
          some ⟨text, some token, Progress.asleep⟩ := by
      have arrives :
          (after settings before).arrival?
              (Action.submit dispatcher text true) =
            some ⟨text, some token, Progress.asleep⟩ := rfl
      exact place ▸ received_of_arrival? arrives
    rw [after_append, run_cons]
    exact asleep_run arrived unwoken
  have unwanted : (after settings sleeping).wants (some token) = false := by
    obtain ⟨action, member, advances⟩ := overtaken
    have moved : 0 < between.countP (Action.advances dispatcher) :=
      List.countP_pos_iff.mpr ⟨action, member, advances⟩
    have same : token.dispatcher = dispatcher := rfl
    rw [wants, isCurrent, beq_eq_false_iff_ne, generations_of_issued handed,
      same]
    omega
  have woken := step_wake_of_unwanted asleep unwanted
  have ended :
      (after settings (sleeping ++ [Action.wake call])).calls[call]? =
        some ⟨text, some token, Progress.ended none⟩ := by
    rw [after_concat, woken]
    exact calls_turned_self asleep (after settings sleeping).processor _
  have unseen :
      trail settings (sleeping ++ [Action.wake call]) call = Trail.empty := by
    have story := story_after settings sleeping call
    rw [asleep] at story
    rw [trail_concat, story.trail_of_asleep, stride, woken]
    rfl
  have partition :
      before ++ Action.submit dispatcher text true ::
          (between ++ Action.wake call :: rest) =
        sleeping ++ [Action.wake call] ++ rest := by
    simp [sleeping]
  rw [partition, trail_append_of_ended ended, unseen]
  exact ⟨answer?_append ((answer?_eq_some_iff _ _ _).mpr ⟨_, ended, rfl⟩) rest,
    rfl⟩

/-! ## All superseded calls -/

/-- What a call leaves behind whose token is not current any more when it
ends. -/
structure Dropped (settings : Settings) (actions : List Action) (call : Nat)
    (entry : Call) : Prop where
  answer : (after settings actions).answer? call = some none
  /-- Every step leaves all entries and their values as they are. -/
  entries : ∀ before action rest, actions = before ++ action :: rest →
    (after settings before).turning? action = some call →
      (after settings (before ++ [action])).processor.cache.entries.Perm
        (after settings before).processor.cache.entries
  steps : ∀ before action rest, actions = before ++ action :: rest →
    (after settings before).turning? action = some call →
      Traceless (after settings before) (after settings (before ++ [action]))
        entry.text
  /-- The counters change with one step at most. -/
  once : ∀ before action between later rest,
    actions = before ++ action :: (between ++ later :: rest) →
      (after settings before).turning? action = some call →
        (after settings (before ++ action :: between)).turning? later =
            some call →
          (after settings (before ++ [action])).processor.hits =
                (after settings before).processor.hits ∧
              (after settings (before ++ [action])).processor.misses =
                (after settings before).processor.misses ∨
            (after settings
                    (before ++ action :: between ++ [later])).processor.hits =
                (after settings (before ++ action :: between)).processor.hits ∧
              (after settings
                    (before ++ action :: between ++ [later])).processor.misses =
                (after settings (before ++ action :: between)).processor.misses

/-- What a submission leaves behind that is superseded while it sleeps. -/
structure Overtaken (settings : Settings) (actions : List Action)
    (call : Nat) : Prop where
  answer : (after settings actions).answer? call = some none
  /-- No phase is entered, and the resolver is not asked for anything. -/
  unseen : trail settings actions call = Trail.empty
  steps : ∀ before action rest, actions = before ++ action :: rest →
    (after settings before).turning? action = some call →
      (after settings (before ++ [action])).processor =
        (after settings before).processor

theorem counters_of_lookups_nil {desk : Desk} {action : Action} {call : Nat}
    (turning : desk.turning? action = some call)
    (none : desk.lookups action = []) :
    (desk.step action).1.processor.hits = desk.processor.hits ∧
      (desk.step action).1.processor.misses = desk.processor.misses := by
  have kept : action ≠ Action.reset := by
    rintro rfl
    cases turning
  have counted := counted_step desk kept
  rw [counted.hits, counted.misses, foundBy, missedBy, none]
  exact ⟨rfl, rfl⟩

theorem dropped_of_superseded {settings : Settings} {actions : List Action}
    {call : Nat} {entry : Call}
    (here : (after settings actions).calls[call]? = some entry)
    (superseded : entry.progress = Progress.ended none) :
    Dropped settings actions call entry where
  answer := (answer?_eq_some_iff _ _ _).mpr ⟨entry, here, superseded⟩
  entries := by
    rintro before action rest rfl turning
    exact (traceless_step here superseded turning).perm_entries
      (nodup_keys_after settings before)
  steps := by
    rintro before action rest rfl turning
    exact traceless_step here superseded turning
  once := by
    rintro before action between later rest rfl turning again
    rw [after_concat, after_concat]
    rcases lookups_cases (after settings before) action with
      none | ⟨other, text, one⟩
    · exact Or.inl (counters_of_lookups_nil turning none)
    · have lookup : (other, text) ∈ (after settings before).lookups action :=
        one ▸ List.mem_singleton.mpr rfl
      obtain rfl := Option.some.inj
        (turning.symm.trans (turning_of_lookup lookup))
      exact Or.inr (counters_of_lookups_nil again
        (lookups_eq_nil_of_lookup lookup again))

/-- What superseded calls leave behind. -/
structure Framed (settings : Settings) (actions : List Action) : Prop where
  /-- The token of the call is not current at the moment at which it ends. -/
  stale : ∀ upTo rest call answer entry, actions = upTo ++ rest →
    Finishes settings upTo call answer →
      (after settings upTo).calls[call]? = some entry →
        (after settings upTo).wants entry.token = false →
          Dropped settings actions call entry
  overtaken : ∀ before dispatcher text between rest,
    actions =
        before ++ Action.submit dispatcher text true ::
          (between ++ Action.wake (after settings before).calls.length ::
            rest) →
      Action.wake (after settings before).calls.length ∉ between →
        (∃ action ∈ between, action.advances dispatcher = true) →
          Overtaken settings actions (after settings before).calls.length

/-- Whatever happens at a desk, a call that is superseded before it ends leaves all
entries of the cache as they are and is seen in the counters by its lookup only,
and a submission that is superseded in its sleep is not seen at all. -/
theorem framed_after (settings : Settings) (actions : List Action) :
    Framed settings actions where
  stale := by
    rintro upTo rest call answer entry rfl finishes here unwanted
    obtain rfl := (finishes.answer_iff here).mpr unwanted
    obtain ⟨_, _, _, _, finished⟩ := finishes
    obtain ⟨entry', here', ended⟩ := (answer?_eq_some_iff _ _ _).mp finished
    obtain rfl := Option.some.inj (here.symm.trans here')
    obtain ⟨progress, later, kept⟩ := run_carries here rest
    obtain rfl := kept none ended
    rw [← after_append] at later
    have dropped := dropped_of_superseded later rfl
    exact ⟨dropped.answer, dropped.entries, dropped.steps, dropped.once⟩
  overtaken := by
    rintro before dispatcher text between rest rfl unwoken overtaken
    obtain ⟨answer, unseen⟩ :=
      ended_of_overtaken rest text unwoken overtaken
    refine ⟨answer, unseen, fun earlier action others partition turning => ?_⟩
    rw [partition] at unseen
    rw [after_concat]
    exact processor_step_of_unseen turning (stride_of_trail_empty unseen)

/-- A superseded conversion that finds its key gives nothing, but the key is now
the one used last. -/
example :
    let resolving (call : Nat) : List Action :=
      [Action.reply call (Reply.created (Except.ok ⟨0, "", Handle.missing⟩)),
        Action.reply call (Reply.computed (Except.ok padded)),
        Action.reply call (Reply.destroyed (Except.ok ()))]
    let remembering :=
      Action.convert "p-4" none :: resolving 0 ++
        Action.convert "m-2" none :: resolving 1
    let dropping :=
      [Action.issue 0, Action.cancel 0, Action.convert "p-4" (some ⟨0, 1⟩)]
    (after Settings.usual remembering).processor.cache.keys = ["p-4", "m-2"] ∧
      (after Settings.usual (remembering ++ dropping)).processor.cache.keys =
          ["m-2", "p-4"] ∧
        (after Settings.usual (remembering ++ dropping)).answer? 2 =
          some none :=
  ⟨rfl, rfl, rfl⟩

end Desk

end UtilityCss

import UtilityCss.Proofs.Desk.Caching
import UtilityCss.Proofs.Desk.Story

/-!
# The phases of a call and its result

A conversion takes one of five routes, and each route has its phases.  Which one
it takes is decided by its text, by what is remembered when it starts, and by
the replies it gets; how the phases of other calls are shuffled in between, and
whether the call is still wanted in the end, makes no difference.  A call that
waits goes on with every reply to what it asks.  The phase in which a route ends
agrees with the result, also when the result was remembered.
-/

namespace UtilityCss

/-- The call and the phase that a note reports. -/
def Note.entered? : Note → Option (Nat × Phase)
  | Note.entered call phase => some (call, phase)
  | _ => none

/-- The action brings a conversion that starts at once. -/
def Action.immediate : Action → Bool
  | Action.convert _ _ => true
  | Action.submit _ _ delayed => !delayed
  | _ => false

namespace Desk

/-- The ways through a conversion. -/
inductive Route where
  /-- Nothing to convert. -/
  | blank
  /-- Turned away by the guard. -/
  | rejected
  /-- Found in the cache. -/
  | remembered
  /-- No context or no styles. -/
  | broken
  /-- Styles found and written down. -/
  | resolved
deriving DecidableEq, Repr

/-- Some reply reports a fault that keeps the styles from being found. -/
def Breaks (replies : List Reply) : Prop :=
  ∃ reply ∈ replies, ∃ fault, reply.fault? = some fault

namespace Route

def phases : Route → List Phase
  | blank => [Phase.validating, Phase.succeeded]
  | rejected => [Phase.validating, Phase.failed]
  | remembered => [Phase.validating, Phase.cacheHit, Phase.succeeded]
  | broken => [Phase.validating, Phase.extracting, Phase.failed]
  | resolved =>
      [Phase.validating, Phase.extracting, Phase.formatting,
        Phase.diagnosing, Phase.succeeded]

theorem phases_injective {route other : Route}
    (same : route.phases = other.phases) : route = other := by
  cases route <;> cases other <;> first | rfl | cases same

/-- When a conversion of the text that starts after the actions `before` and
gets these replies takes the route. -/
def Applies (settings : Settings) (before : List Action) (text : String)
    (replies : List Reply) : Route → Prop
  | blank => ClassText.isBlankText text.toList = true
  | rejected =>
      ClassText.isBlankText text.toList = false ∧
        ∃ cause, Guard.check settings.maxInputLength text.toList =
          Except.error cause
  | remembered =>
      Accepted settings.maxInputLength text ∧
        keyOf text ∈ (after settings before).processor.cache.keys
  | broken => Missed settings before text ∧ Breaks replies
  | resolved => Missed settings before text ∧ ¬ Breaks replies

section Applying

variable {settings : Settings} {before : List Action} {text : String}
variable {replies : List Reply} {route : Route}
variable (applies : route.Applies settings before text replies)

include applies

theorem Applies.eq_blank (empty : ClassText.isBlankText text.toList = true) :
    route = blank := by
  have filled : ClassText.isBlankText text.toList ≠ false := by
    rw [empty]
    decide
  cases route with
  | blank => rfl
  | rejected => exact absurd applies.1 filled
  | remembered => exact absurd applies.1.filled filled
  | broken => exact absurd applies.1.accepted.filled filled
  | resolved => exact absurd applies.1.accepted.filled filled

theorem Applies.eq_rejected {cause : Rejection}
    (filled : ClassText.isBlankText text.toList = false)
    (failed : Guard.check settings.maxInputLength text.toList =
      Except.error cause) : route = rejected := by
  have unaccepted : ¬ Accepted settings.maxInputLength text := by
    intro accepted
    rw [accepted.passed] at failed
    cases failed
  cases route with
  | blank => exact absurd (filled.symm.trans applies) (by decide)
  | rejected => rfl
  | remembered => exact absurd applies.1 unaccepted
  | broken => exact absurd applies.1.accepted unaccepted
  | resolved => exact absurd applies.1.accepted unaccepted

/-- An accepted text is neither blank nor rejected. -/
theorem Applies.reaches_lookup (accepted : Accepted settings.maxInputLength text) :
    route ≠ blank ∧ route ≠ rejected := by
  constructor
  · rintro rfl
    exact absurd (accepted.filled.symm.trans applies) (by decide)
  · rintro rfl
    obtain ⟨_, cause, failed⟩ := applies
    rw [accepted.passed] at failed
    cases failed

theorem Applies.eq_remembered (accepted : Accepted settings.maxInputLength text)
    (present : keyOf text ∈ (after settings before).processor.cache.keys) :
    route = remembered := by
  obtain ⟨filled, passed⟩ := applies.reaches_lookup accepted
  cases route with
  | blank => exact absurd rfl filled
  | rejected => exact absurd rfl passed
  | remembered => rfl
  | broken => exact absurd present applies.1.absent
  | resolved => exact absurd present applies.1.absent

theorem Applies.eq_of_missed (missed : Missed settings before text) :
    route = broken ∨ route = resolved := by
  obtain ⟨filled, passed⟩ := applies.reaches_lookup missed.accepted
  cases route with
  | blank => exact absurd rfl filled
  | rejected => exact absurd rfl passed
  | remembered => exact absurd applies.2 missed.absent
  | broken => exact Or.inl rfl
  | resolved => exact Or.inr rfl

theorem Applies.eq_broken (missed : Missed settings before text)
    (breaks : Breaks replies) : route = broken := by
  rcases applies.eq_of_missed missed with same | rfl
  · exact same
  · exact absurd breaks applies.2

theorem Applies.eq_resolved (missed : Missed settings before text)
    (sound : ¬ Breaks replies) : route = resolved := by
  rcases applies.eq_of_missed missed with rfl | same
  · exact absurd applies.2 sound
  · exact same

end Applying

end Route

theorem Exchange.breaks_iff {classes : String}
    {outcome : Except Fault StyleValues} {requests : List Request}
    {replies : List Reply}
    (exchange :
      Exchange classes (Extraction.ended outcome) requests replies) :
    Breaks replies ↔ ∃ fault, outcome = Except.error fault := by
  cases exchange with
  | refused fault =>
      exact ⟨fun _ => ⟨_, rfl⟩, fun _ => ⟨_, List.mem_cons_self, fault, rfl⟩⟩
  | ended context outcome parting =>
      cases outcome with
      | error fault =>
          refine ⟨fun _ => ⟨fault, rfl⟩, fun _ => ?_⟩
          exact ⟨Reply.computed (Except.error fault), by simp, fault, rfl⟩
      | ok styles =>
          refine ⟨?_, fun ⟨fault, equality⟩ => by cases equality⟩
          rintro ⟨reply, member, fault, raised⟩
          simp only [List.mem_cons, List.not_mem_nil, or_false] at member
          rcases member with rfl | rfl | rfl
          · cases raised
          · cases raised
          · cases raised

/-! ## From stories to routes -/

/-- The last of the phases agrees with a result of the text. -/
structure Settles (phases : List Phase) (text : String)
    (result : Conversion) : Prop where
  success : phases.getLast? = some Phase.succeeded →
    result.failure = none ∧
      (result.warnings = none ↔ ClassText.isBlankText text.toList = true)
  failure : phases.getLast? = some Phase.failed →
    result.failure ≠ none ∧ result.css = "" ∧ result.warnings = none

theorem settles_failed (phases : List Phase) (text : String) (fault : Fault)
    (last : phases.getLast? ≠ some Phase.succeeded) :
    Settles phases text (Conversion.failed fault) :=
  ⟨fun succeeded => absurd succeeded last,
    fun _ => ⟨by rintro ⟨⟩, rfl, rfl⟩⟩

theorem settles_regarded {phases : List Phase} {text : String}
    {result : Conversion} (last : phases.getLast? ≠ some Phase.failed)
    (filled : ClassText.isBlankText text.toList = false)
    (success : result.failure = none) (regarded : result.warnings ≠ none) :
    Settles phases text result := by
  refine ⟨fun _ => ⟨success, fun missing => absurd missing regarded, ?_⟩,
    fun failed => absurd failed last⟩
  intro empty
  exact absurd (filled.symm.trans empty) (by decide)

/-- A call has started after `before` and has taken this route and no other:
it has gone through the phases of a route exactly when the route applies. -/
structure Takes (settings : Settings) (actions : List Action) (call : Nat)
    (text : String) (before : List Action) (route : Route) : Prop where
  starts : StartsAfter settings actions before call
  phases : (trail settings actions call).phases = route.phases
  only : ∀ other : Route,
    (trail settings actions call).phases = other.phases → other = route
  applies_iff : ∀ other : Route,
    (trail settings actions call).phases = other.phases ↔
      other.Applies settings before text (trail settings actions call).replies

theorem takes_of_applies {settings : Settings} {actions before : List Action}
    {call : Nat} {text : String} {route : Route}
    (starts : StartsAfter settings actions before call)
    (phases : (trail settings actions call).phases = route.phases)
    (applies :
      route.Applies settings before text
        (trail settings actions call).replies)
    (only : ∀ other : Route,
      other.Applies settings before text
          (trail settings actions call).replies → other = route) :
    Takes settings actions call text before route := by
  have same : ∀ other : Route,
      (trail settings actions call).phases = other.phases →
        other = route := fun other shown =>
    Route.phases_injective (shown.symm.trans phases)
  exact ⟨starts, phases, same, fun other =>
    ⟨fun shown => same other shown ▸ applies,
      fun applies' => only other applies' ▸ phases⟩⟩

theorem commit_eq_some {wanted : Bool} {result answer : Conversion}
    (given : Processor.commit wanted result = some answer) :
    result = answer := by
  rw [Processor.commit] at given
  split at given
  · exact Option.some.inj given
  · cases given

/-- A call that has ended was dropped before it started, or has taken one route
to a phase that agrees with its result. -/
theorem route_of_ended {settings : Settings} {actions : List Action}
    {call : Nat} {text : String} {token : Option Token}
    {answer : Option Conversion}
    (here :
      (after settings actions).calls[call]? =
        some ⟨text, token, Progress.ended answer⟩) :
    (trail settings actions call = Trail.empty ∧ answer = none) ∨
      ∃ before route, Takes settings actions call text before route ∧
        ∀ result, answer = some result →
          Settles (trail settings actions call).phases text result := by
  have story := story_after settings actions call
  rw [here] at story
  -- the story names its trail by an index, so the trail becomes a variable
  generalize traced : trail settings actions call = seen at story ⊢
  cases story with
  | dropped => exact Or.inl ⟨rfl, rfl⟩
  | blank token wanted starts empty =>
      refine Or.inr ⟨_, Route.blank,
        takes_of_applies starts (by rw [traced]; rfl) empty
          (fun other applies => applies.eq_blank empty),
        fun result given => ?_⟩
      obtain rfl := commit_eq_some given
      exact ⟨fun _ => ⟨rfl, fun _ => empty, fun _ => rfl⟩,
        fun failed => by cases failed⟩
  | rejected token wanted starts cause filled failed =>
      refine Or.inr ⟨_, Route.rejected,
        takes_of_applies starts (by rw [traced]; rfl)
          ⟨filled, cause, failed⟩
          (fun other applies => applies.eq_rejected filled failed),
        fun result given => ?_⟩
      obtain rfl := commit_eq_some given
      exact settles_failed _ text _ (by rintro ⟨⟩)
  | remembered token wanted starts found success regarded accepted present =>
      refine Or.inr ⟨_, Route.remembered,
        takes_of_applies starts (by rw [traced]; rfl) ⟨accepted, present⟩
          (fun other applies => applies.eq_remembered accepted present),
        fun result given => ?_⟩
      obtain rfl := commit_eq_some given
      exact settles_regarded (by rintro ⟨⟩) accepted.filled success regarded
  | @closed before _ token wanted starts missed outcome requests replies
      exchange =>
      cases outcome with
      | error fault =>
          have breaks : Breaks (trail settings actions call).replies := by
            rw [traced]
            exact exchange.breaks_iff.mpr ⟨fault, rfl⟩
          refine Or.inr ⟨before, Route.broken,
            takes_of_applies starts (by rw [traced]; rfl) ⟨missed, breaks⟩
              (fun other applies => applies.eq_broken missed breaks),
            fun result given => ?_⟩
          obtain rfl := commit_eq_some given
          exact settles_failed _ text _ (by rintro ⟨⟩)
      | ok styles =>
          have sound : ¬ Breaks (trail settings actions call).replies := by
            rw [traced]
            intro breaks
            obtain ⟨fault, equality⟩ := exchange.breaks_iff.mp breaks
            cases equality
          refine Or.inr ⟨before, Route.resolved,
            takes_of_applies starts (by rw [traced]; rfl) ⟨missed, sound⟩
              (fun other applies => applies.eq_resolved missed sound),
            fun result given => ?_⟩
          obtain rfl := commit_eq_some given
          exact settles_regarded (by rintro ⟨⟩) missed.accepted.filled rfl
            (by rintro ⟨⟩)

/-! ## The state of the processor -/

/-- The phase that any call has entered last. -/
def lastPhase? (notes : List Note) : Option Phase :=
  (notes.filterMap Note.entered?).getLast?.map Prod.snd

theorem lastPhase?_append (first second : List Note) :
    lastPhase? (first ++ second) =
      (lastPhase? second).or (lastPhase? first) := by
  rw [lastPhase?, List.filterMap_append, List.getLast?_append, Option.map_or,
    lastPhase?, lastPhase?]

theorem lastPhase?_notesOf (call : Nat) (phases : List Phase) :
    lastPhase? (notesOf call phases) = phases.getLast? := by
  have pairs : (notesOf call phases).filterMap Note.entered? =
      phases.map (Prod.mk call) := by
    rw [notesOf, List.filterMap_map, ← List.filterMap_eq_map]
    rfl
  rw [lastPhase?, pairs, List.getLast?_map, Option.map_map]
  exact Option.map_id'

theorem phase_opening (processor : Processor) (text : String) :
    (processor.opening text).2.2.phase =
      (processor.opening text).2.1.getLast?.getD processor.phase := by
  have opens := processor.opens text
  generalize processor.opening text = opened at opens ⊢
  cases opens <;> rfl

theorem phase_closing (processor : Processor) (job : Job)
    (outcome : Except Fault StyleValues) (wanted : Bool) :
    (processor.closing job outcome wanted).2.2.phase =
      (Processor.closingResult job outcome).2.getLast?.getD
        processor.phase := by
  rw [Processor.closing_eq, Processor.remember]
  split <;> rfl

theorem phase_step (desk : Desk) (action : Action) :
    (desk.step action).1.processor.phase =
      (lastPhase? (desk.step action).2).getD desk.processor.phase := by
  have shows := shows_step desk action
  generalize (desk.step action).1 = next at shows ⊢
  generalize (desk.step action).2 = notes at shows ⊢
  cases shows with
  | rest silent => cases action <;> rfl
  | @settling call text token result phases processor silent asleep opening =>
      have entered := phase_opening desk.processor text
      rw [opening] at entered
      rw [lastPhase?_append, lastPhase?_notesOf]
      exact entered
  | @asking call text token job phases processor silent asleep opening =>
      have entered := phase_opening desk.processor text
      rw [opening] at entered
      rw [lastPhase?_append, lastPhase?_notesOf]
      exact entered
  | dropping woken asleep unwanted => rfl
  | goingOn answered waiting taken asks => rfl
  | closing answered waiting taken =>
      rw [lastPhase?_append, lastPhase?_notesOf]
      exact phase_closing _ _ _ _

/-- The state of the processor is the phase that any call has entered last. -/
theorem phase_after (settings : Settings) (actions : List Action) :
    (after settings actions).processor.phase =
      (lastPhase? (shown settings actions)).getD Phase.idle := by
  induction actions using List.reverseRecOn with
  | nil => rfl
  | append_singleton actions action inductionHypothesis =>
      rw [after_concat, phase_step, inductionHypothesis, shown_concat,
        lastPhase?_append, Option.getD_or]

/-- What a single call has entered last, if nothing has been entered since. -/
theorem exists_call_of_lastPhase? {settings : Settings}
    {actions : List Action} {phase : Phase}
    (last : lastPhase? (shown settings actions) = some phase) :
    ∃ call, (trail settings actions call).phases.getLast? = some phase := by
  obtain ⟨⟨call, entered⟩, final, rfl⟩ := Option.map_eq_some_iff.mp last
  refine ⟨call, ?_⟩
  obtain ⟨others, pairs⟩ := List.getLast?_eq_some_iff.mp final
  -- the phases of one call are picked from those of all calls
  have projected : (shown settings actions).filterMap (Note.phase? call) =
      ((shown settings actions).filterMap Note.entered?).filterMap
        fun pair => if pair.1 = call then some pair.2 else none := by
    rw [List.filterMap_filterMap]
    congr 1
    funext note
    cases note <;> rfl
  rw [trail, trailIn, projected, pairs, List.filterMap_append,
    List.getLast?_append]
  simp

/-! ## All calls together -/

theorem entered_of_start (desk : Desk) (call : Nat) (text : String)
    (token : Option Token) :
    Note.entered call Phase.validating ∈
      (desk.start call text token).2 := by
  rw [start]
  rcases opening : desk.processor.opening text with
    ⟨result | job, phases, processor⟩
  · exact List.mem_append_left _ (mem_notesOf_of_opening opening call)
  · exact List.mem_append_left _ (mem_notesOf_of_opening opening call)

theorem entered_of_immediate {action : Action}
    (immediate : action.immediate = true) (desk : Desk) :
    Note.entered desk.calls.length Phase.validating ∈
      (desk.step action).2 := by
  cases action with
  | convert text token => exact entered_of_start _ _ text token
  | submit dispatcher text delayed =>
      cases delayed with
      | true => cases immediate
      | false => exact entered_of_start _ _ text _
  | _ => cases immediate

theorem startsAfter_of_immediate {action : Action}
    (immediate : action.immediate = true) (settings : Settings)
    (before rest : List Action) :
    StartsAfter settings (before ++ action :: rest) before
      (after settings before).calls.length := by
  have story := story_after settings before (after settings before).calls.length
  rw [List.getElem?_eq_none (Nat.le_refl _)] at story
  exact ⟨action, rest, rfl, by rw [story.trail_of_absent]; rfl,
    entered_of_immediate immediate _⟩

/-- No call waits for its resolver. -/
def Idle (desk : Desk) : Prop :=
  ∀ (call : Nat) text token job extraction,
    desk.calls[call]? ≠
      some ⟨text, token, Progress.extracting job extraction⟩

/-- The last phase of a call that has started and does not wait is one of the
two in which a route ends. -/
theorem getLast?_phases_of_idle {settings : Settings} {actions : List Action}
    (idle : (after settings actions).Idle) {call : Nat} {phase : Phase}
    (last : (trail settings actions call).phases.getLast? = some phase) :
    phase = Phase.succeeded ∨ phase = Phase.failed := by
  have story := story_after settings actions call
  cases here : (after settings actions).calls[call]? with
  | none =>
      rw [here] at story
      rw [story.trail_of_absent] at last
      cases last
  | some entry =>
      obtain ⟨text, token, asleep | ⟨job, extraction⟩ | answer⟩ := entry
      · rw [here] at story
        rw [story.trail_of_asleep] at last
        cases last
      · exact absurd here (idle call text token job extraction)
      · rcases route_of_ended here with ⟨dropped, _⟩ |
          ⟨before, route, takes, _⟩
        · rw [dropped] at last
          cases last
        · rw [takes.phases] at last
          cases route <;> cases last <;> decide

theorem phase_of_idle {settings : Settings} {actions : List Action}
    (idle : (after settings actions).Idle) {call : Nat}
    (begun : (trail settings actions call).phases ≠ []) :
    (after settings actions).processor.phase = Phase.succeeded ∨
      (after settings actions).processor.phase = Phase.failed := by
  rw [phase_after]
  cases last : lastPhase? (shown settings actions) with
  | none =>
      have unentered : (shown settings actions).filterMap Note.entered? = [] := by
        simpa [lastPhase?] using last
      rw [List.filterMap_eq_nil_iff] at unentered
      refine absurd (List.filterMap_eq_nil_iff.mpr ?_) begun
      intro note member
      have silent := unentered note member
      cases note with
      | entered other phase => cases silent
      | _ => rfl
  | some phase =>
      obtain ⟨other, ending⟩ := exists_call_of_lastPhase? last
      exact getLast?_phases_of_idle idle ending

theorem moves_of_extracting {settings : Settings} {actions : List Action}
    {call : Nat} {text : String} {token : Option Token} {job : Job}
    {extraction : Extraction}
    (waiting :
      (after settings actions).calls[call]? =
        some ⟨text, token, Progress.extracting job extraction⟩) :
    ∃ request, extraction.request? = some request ∧
      ∀ reply, Reply.Answers reply request →
        ∃ later, extraction.take? reply = some later ∧
          later.remaining < extraction.remaining ∧
            (after settings
                (actions ++ [Action.reply call reply])).calls[call]? =
              some ⟨text, token,
                (after settings actions).continued token job later⟩ := by
  have underway := underway_after settings actions call text token job
    extraction waiting
  obtain ⟨request, asks⟩ := Option.ne_none_iff_exists'.mp underway
  refine ⟨request, asks, fun reply answers => ?_⟩
  obtain ⟨later, taken⟩ := (Extraction.answers_iff asks reply).mp answers
  refine ⟨later, taken, Extraction.remaining_lt_of_take? taken, ?_⟩
  rw [after_concat]
  exact calls_step_of_taken waiting taken

/-- What the phases of all calls, their results and the state of the processor
say about each other. -/
structure Coherent (settings : Settings) (actions : List Action) : Prop where
  /-- A conversion that does not wait for further input starts at once. -/
  starts : ∀ before action rest, actions = before ++ action :: rest →
    action.immediate = true →
      StartsAfter settings actions before (after settings before).calls.length
  /-- A call that has ended was dropped while it slept, or has taken one route;
  the phase in which the route ends agrees with the result, if there is one. -/
  ended : ∀ call text token answer,
    (after settings actions).calls[call]? =
        some ⟨text, token, Progress.ended answer⟩ →
      (trail settings actions call = Trail.empty ∧ answer = none) ∨
        ∃ before route, Takes settings actions call text before route ∧
          ∀ result, answer = some result →
            Settles (trail settings actions call).phases text result
  /-- A call that waits has gone through the first phases of two routes. -/
  waiting : ∀ call text token job extraction,
    (after settings actions).calls[call]? =
        some ⟨text, token, Progress.extracting job extraction⟩ →
      (trail settings actions call).phases =
        [Phase.validating, Phase.extracting]
  /-- It has missed its key where it started. -/
  missed : ∀ call text token job extraction,
    (after settings actions).calls[call]? =
        some ⟨text, token, Progress.extracting job extraction⟩ →
      ∃ before, StartsAfter settings actions before call ∧
        Missed settings before text
  /-- It asks for something, and any reply to that takes it on, with fewer
  replies ahead than before. -/
  moves : ∀ call text token job extraction,
    (after settings actions).calls[call]? =
        some ⟨text, token, Progress.extracting job extraction⟩ →
      ∃ request, extraction.request? = some request ∧
        ∀ reply, Reply.Answers reply request →
          ∃ later, extraction.take? reply = some later ∧
            later.remaining < extraction.remaining ∧
              (after settings
                  (actions ++ [Action.reply call reply])).calls[call]? =
                some ⟨text, token,
                  (after settings actions).continued token job later⟩
  asleep : ∀ call text token,
    (after settings actions).calls[call]? =
        some ⟨text, token, Progress.asleep⟩ →
      trail settings actions call = Trail.empty
  /-- The state of the processor is the phase that any call entered last. -/
  state : (after settings actions).processor.phase =
    (lastPhase? (shown settings actions)).getD Phase.idle
  /-- Between conversions the state is the end of a route. -/
  rested : ∀ call, (after settings actions).Idle →
    (trail settings actions call).phases ≠ [] →
      (after settings actions).processor.phase = Phase.succeeded ∨
        (after settings actions).processor.phase = Phase.failed

example : (trail Settings.usual repeating 0).phases = Route.resolved.phases ∧
    (trail Settings.usual repeating 1).phases = Route.remembered.phases :=
  ⟨rfl, rfl⟩

end Desk

end UtilityCss

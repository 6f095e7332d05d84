import Mathlib.Data.List.Induction
import UtilityCss.Proofs.Conversion
import UtilityCss.Proofs.Desk.Notes

/-!
# The story of a call

Where a call stands and its trail go together: a call that sleeps or was dropped
has left none, one that ended in its opening has entered phases only, and one
that resolves its classes has made its requests in turn and taken a reply to
each but the last.  The cache and the text decide which way a call goes, but at
the moment at which it starts and never later, so every story names that moment.
-/

namespace UtilityCss.Desk

theorem orderly_after (settings : Settings) (actions : List Action) :
    (after settings actions).processor.Orderly settings := by
  induction actions using List.reverseRecOn with
  | nil => exact Processor.orderly_create settings
  | append_singleton actions action orderly =>
      have noticed : ((after settings actions).received
          action).processor.Orderly settings := by
        cases action with
        | reset => exact orderly.reset
        | _ => exact orderly
      rw [after_concat]
      have turn := turn_step (after settings actions) action
      generalize ((after settings actions).step action).1 = next at turn ⊢
      cases turn with
      | rest => exact noticed
      | opening asleep => exact noticed.opening _
      | dropping asleep unwanted => exact noticed
      | @continuing call text token job extraction later reply answered
          waiting taken =>
          cases later with
          | ended outcome => exact noticed.closing _ _ _
          | _ => exact noticed

/-! ## Calls that wait -/

/-- A call that extracts still asks for something. -/
def Underway (desk : Desk) : Prop :=
  ∀ (call : Nat) text token job extraction,
    desk.calls[call]? =
        some ⟨text, token, Progress.extracting job extraction⟩ →
      extraction.request? ≠ none

theorem underway_received {desk : Desk} (underway : desk.Underway)
    (action : Action) : (desk.received action).Underway := by
  intro call text token job extraction here
  rcases received_call_cases here with old | ⟨_, arrives⟩
  · exact underway call text token job extraction old
  · cases asleep_of_arrival? arrives

theorem request?_ne_none_of_continued {desk : Desk} {token : Option Token}
    {job other : Job} {later extraction : Extraction}
    (goesOn :
      desk.continued token job later =
        Progress.extracting other extraction) :
    extraction.request? ≠ none := by
  cases later with
  | ended outcome => cases goesOn
  | _ =>
      cases goesOn
      exact Option.some_ne_none _

theorem request?_ne_none_of_opened {desk : Desk} {text : String}
    {token : Option Token} {job : Job} {extraction : Extraction}
    (goesOn :
      desk.opened text token = Progress.extracting job extraction) :
    extraction.request? ≠ none := by
  rw [opened] at goesOn
  split at goesOn
  · cases goesOn
  · cases goesOn
    exact Option.some_ne_none _

theorem Underway.turn {desk next : Desk} {action : Action}
    (underway : desk.Underway) (turn : Turn desk action next) :
    next.Underway := by
  intro call text token job extraction here
  rcases turn.call_cases here with old | changed
  · exact underway call text token job extraction old
  · generalize entered :
      (⟨text, token, Progress.extracting job extraction⟩ : Call) = entry
      at changed
    cases changed with
    | opening asleep =>
        exact request?_ne_none_of_opened (Call.mk.inj entered).2.2.symm
    | dropping asleep unwanted => cases entered
    | continuing answered waiting taken =>
        exact request?_ne_none_of_continued (Call.mk.inj entered).2.2.symm

theorem underway_after (settings : Settings) (actions : List Action) :
    (after settings actions).Underway := by
  induction actions using List.reverseRecOn with
  | nil =>
      intro call text token job extraction here
      simp [after, run, create] at here
  | append_singleton actions action inductionHypothesis =>
      rw [after_concat]
      exact (underway_received inductionHypothesis action).turn
        (turn_step _ action)

/-! ## Stories -/

/-- The requests of an extraction so far with the replies it has taken. -/
inductive Exchange (classes : String) :
    Extraction → List Request → List Reply → Prop
  | creating :
      Exchange classes (Extraction.creating classes)
        [Request.create classes] []
  | computing (context : StylingContext) :
      Exchange classes (Extraction.computing context)
        [Request.create classes, Request.compute context]
        [Reply.created (Except.ok context)]
  | destroying (context : StylingContext)
      (outcome : Except Fault StyleValues) :
      Exchange classes (Extraction.destroying context outcome)
        [Request.create classes, Request.compute context,
          Request.destroy context]
        [Reply.created (Except.ok context), Reply.computed outcome]
  | refused (fault : Fault) :
      Exchange classes (Extraction.ended (Except.error fault.leavingSeries))
        [Request.create classes] [Reply.created (Except.error fault)]
  | ended (context : StylingContext) (outcome : Except Fault StyleValues)
      (parting : Except Fault Unit) :
      Exchange classes (Extraction.ended outcome)
        [Request.create classes, Request.compute context,
          Request.destroy context]
        [Reply.created (Except.ok context), Reply.computed outcome,
          Reply.destroyed parting]

theorem Exchange.take {classes : String} {extraction later : Extraction}
    {requests : List Request} {replies : List Reply} {reply : Reply}
    (exchange : Exchange classes extraction requests replies)
    (taken : extraction.take? reply = some later) :
    Exchange classes later (requests ++ later.request?.toList)
      (replies ++ [reply]) := by
  cases exchange with
  | creating =>
      rcases reply with ⟨fault | context⟩ | outcome | parting
      · obtain rfl := Option.some.inj taken
        exact Exchange.refused fault
      · obtain rfl := Option.some.inj taken
        exact Exchange.computing context
      · cases taken
      · cases taken
  | computing context =>
      rcases reply with created | outcome | parting
      · cases taken
      · obtain rfl := Option.some.inj taken
        exact Exchange.destroying context outcome
      · cases taken
  | destroying context outcome =>
      rcases reply with created | other | parting
      · cases taken
      · cases taken
      · obtain rfl := Option.some.inj taken
        exact Exchange.ended context outcome parting
  | refused fault => cases reply <;> cases taken
  | ended context outcome parting => cases reply <;> cases taken

/-- The call enters its first phase at the action that comes after `before`. -/
def StartsAfter (settings : Settings) (actions before : List Action)
    (call : Nat) : Prop :=
  ∃ action rest,
    actions = before ++ action :: rest ∧
      (trail settings before call).phases = [] ∧
      Note.entered call Phase.validating ∈
        ((after settings before).step action).2

/-- The text has been accepted but its key was not remembered. -/
structure Missed (settings : Settings) (before : List Action)
    (text : String) : Prop where
  accepted : Accepted settings.maxInputLength text
  absent : keyOf text ∉ (after settings before).processor.cache.keys

/-- What a call has been through, as far as its trail and where it stands can
tell. -/
inductive Story (settings : Settings) (actions : List Action) (call : Nat) :
    Option Call → Trail → Prop
  | absent : Story settings actions call none Trail.empty
  | asleep (text : String) (token : Option Token) :
      Story settings actions call (some ⟨text, token, Progress.asleep⟩)
        Trail.empty
  | dropped (text : String) (token : Option Token) :
      Story settings actions call (some ⟨text, token, Progress.ended none⟩)
        Trail.empty
  | blank {before : List Action} {text : String} (token : Option Token)
      (wanted : Bool) (starts : StartsAfter settings actions before call)
      (empty : ClassText.isBlankText text.toList = true) :
      Story settings actions call
        (some ⟨text, token,
          Progress.ended (Processor.commit wanted Conversion.blank)⟩)
        ⟨[Phase.validating, Phase.succeeded], [], []⟩
  | rejected {before : List Action} {text : String} (token : Option Token)
      (wanted : Bool) (starts : StartsAfter settings actions before call)
      (cause : Rejection)
      (filled : ClassText.isBlankText text.toList = false)
      (failed : Guard.check settings.maxInputLength text.toList =
        Except.error cause) :
      Story settings actions call
        (some ⟨text, token,
          Progress.ended (Processor.commit wanted
            (Conversion.failed (Fault.ofRejection cause)))⟩)
        ⟨[Phase.validating, Phase.failed], [], []⟩
  | remembered {before : List Action} {text : String} (token : Option Token)
      (wanted : Bool) (starts : StartsAfter settings actions before call)
      (found : Conversion) (success : found.failure = none)
      (regarded : found.warnings ≠ none)
      (accepted : Accepted settings.maxInputLength text)
      (present : keyOf text ∈ (after settings before).processor.cache.keys) :
      Story settings actions call
        (some ⟨text, token,
          Progress.ended (Processor.commit wanted found)⟩)
        ⟨[Phase.validating, Phase.cacheHit, Phase.succeeded], [], []⟩
  | waiting {before : List Action} {text : String} (token : Option Token)
      (starts : StartsAfter settings actions before call)
      (missed : Missed settings before text) {extraction : Extraction}
      {requests : List Request} {replies : List Reply}
      (exchange : Exchange (classesOf text) extraction requests replies) :
      Story settings actions call
        (some ⟨text, token, Progress.extracting (Job.ofText text) extraction⟩)
        ⟨[Phase.validating, Phase.extracting], requests, replies⟩
  | closed {before : List Action} {text : String} (token : Option Token)
      (wanted : Bool) (starts : StartsAfter settings actions before call)
      (missed : Missed settings before text)
      {outcome : Except Fault StyleValues} {requests : List Request}
      {replies : List Reply}
      (exchange :
        Exchange (classesOf text) (Extraction.ended outcome) requests
          replies) :
      Story settings actions call
        (some ⟨text, token,
          Progress.ended (Processor.commit wanted
            (Processor.closingResult (Job.ofText text) outcome).1)⟩)
        ⟨[Phase.validating, Phase.extracting] ++
            (Processor.closingResult (Job.ofText text) outcome).2,
          requests, replies⟩

section Telling

variable {settings : Settings} {actions : List Action} {call : Nat}

theorem StartsAfter.concat {before : List Action}
    (starts : StartsAfter settings actions before call) (action : Action) :
    StartsAfter settings (actions ++ [action]) before call := by
  obtain ⟨first, rest, rfl, fresh, entered⟩ := starts
  exact ⟨first, rest ++ [action], by simp, fresh, entered⟩

theorem Story.concat {entry : Option Call} {trail : Trail}
    (story : Story settings actions call entry trail) (action : Action) :
    Story settings (actions ++ [action]) call entry trail := by
  cases story with
  | absent => exact Story.absent
  | asleep text token => exact Story.asleep text token
  | dropped text token => exact Story.dropped text token
  | blank token wanted starts empty =>
      exact Story.blank token wanted (starts.concat action) empty
  | rejected token wanted starts cause filled failed =>
      exact Story.rejected token wanted (starts.concat action) cause filled
        failed
  | remembered token wanted starts found success regarded accepted present =>
      exact Story.remembered token wanted (starts.concat action) found success
        regarded accepted present
  | waiting token starts missed exchange =>
      exact Story.waiting token (starts.concat action) missed exchange
  | closed token wanted starts missed exchange =>
      exact Story.closed token wanted (starts.concat action) missed exchange

/-- Taking notice of an action adds nothing to any trail. -/
theorem Story.received {desk : Desk} {trail : Trail}
    (story : Story settings actions call desk.calls[call]? trail)
    (action : Action) :
    Story settings actions call (desk.received action).calls[call]?
      trail := by
  cases here : (desk.received action).calls[call]? with
  | none =>
      cases before : desk.calls[call]? with
      | none => exact before ▸ story
      | some entry =>
          rw [received_of_call before] at here
          cases here
  | some entry =>
      rcases received_call_cases here with old | ⟨rfl, arrives⟩
      · exact old ▸ story
      · have outside : desk.calls[desk.calls.length]? = none :=
          List.getElem?_eq_none (Nat.le_refl _)
        rw [outside] at story
        obtain ⟨text, token, progress⟩ := entry
        obtain rfl : progress = Progress.asleep := asleep_of_arrival? arrives
        cases story
        exact Story.asleep text token

theorem Story.trail_of_absent {trail : Trail}
    (story : Story settings actions call none trail) :
    trail = Trail.empty := by
  cases story
  rfl

theorem Story.trail_of_asleep {text : String} {token : Option Token}
    {trail : Trail}
    (story :
      Story settings actions call (some ⟨text, token, Progress.asleep⟩)
        trail) : trail = Trail.empty := by
  cases story
  rfl

/-- A call that waits has missed its key, and its requests and replies are
those of its extraction. -/
theorem Story.of_extracting {text : String} {token : Option Token} {job : Job}
    {extraction : Extraction} {trail : Trail}
    (story :
      Story settings actions call
        (some ⟨text, token, Progress.extracting job extraction⟩) trail) :
    ∃ before requests replies,
      StartsAfter settings actions before call ∧
        Missed settings before text ∧ job = Job.ofText text ∧
        Exchange (classesOf text) extraction requests replies ∧
        trail = ⟨[Phase.validating, Phase.extracting], requests, replies⟩ := by
  cases story with
  | waiting token starts missed exchange =>
      exact ⟨_, _, _, starts, missed, rfl, exchange, rfl⟩

/-- The story of a call that ends where it starts. -/
theorem StartsAfter.story_of_settled {before : List Action}
    (starts : StartsAfter settings actions before call) {text : String}
    {result : Conversion} {phases : List Phase} {processor : Processor}
    (opening :
      (after settings before).processor.opening text =
        (Opening.settled result, phases, processor))
    (token : Option Token) (wanted : Bool) :
    Story settings actions call
      (some ⟨text, token,
        Progress.ended (Processor.commit wanted result)⟩)
      ⟨phases, [], []⟩ := by
  have orderly := orderly_after settings before
  have opens := (after settings before).processor.opens text
  rw [opening] at opens
  cases opens with
  | blank empty => exact Story.blank token wanted starts empty
  | rejected cause filled failed =>
      rw [orderly.fixed] at failed
      exact Story.rejected token wanted starts cause filled failed
  | hit found accepted hit =>
      rw [orderly.fixed] at accepted
      obtain ⟨success, regarded⟩ := orderly.found hit
      refine Story.remembered token wanted starts result success regarded
        accepted ?_
      by_contra absent
      rw [(RecencyCache.peek?_eq_none_iff _ _).mpr absent] at hit
      cases hit

/-- The story of a call that has asked for a context. -/
theorem StartsAfter.story_of_unresolved {before : List Action}
    (starts : StartsAfter settings actions before call) {text : String}
    {job : Job} {phases : List Phase} {processor : Processor}
    (opening :
      (after settings before).processor.opening text =
        (Opening.unresolved job, phases, processor))
    (token : Option Token) :
    Story settings actions call
      (some ⟨text, token,
        Progress.extracting job (Extraction.creating job.classes)⟩)
      ⟨phases, [Request.create job.classes], []⟩ := by
  have opens := (after settings before).processor.opens text
  rw [opening] at opens
  cases opens with
  | miss accepted miss =>
      rw [(orderly_after settings before).fixed] at accepted
      have absent := (RecencyCache.peek?_eq_none_iff _ _).mp miss
      exact Story.waiting token starts ⟨accepted, absent⟩ Exchange.creating

/-- Every opening begins with the checks. -/
theorem mem_notesOf_of_opening {processor next : Processor} {text : String}
    {opening : Opening} {phases : List Phase}
    (opens : processor.opening text = (opening, phases, next)) (call : Nat) :
    Note.entered call Phase.validating ∈ notesOf call phases := by
  have shape := processor.opens text
  rw [opens] at shape
  cases shape <;> exact List.mem_cons_self

/-! ## One action -/

theorem story_step
    (story :
      Story settings actions call (after settings actions).calls[call]?
        (trail settings actions call)) (action : Action) :
    Story settings (actions ++ [action]) call
      ((after settings actions).step action).1.calls[call]?
      ((trail settings actions call).append
        ((after settings actions).stride action call)) := by
  have noticed := (story.concat action).received action
  have shows := shows_step (after settings actions) action
  have entering :
      Note.entered call Phase.validating ∈
          ((after settings actions).step action).2 →
        trail settings actions call = Trail.empty →
          StartsAfter settings (actions ++ [action]) actions call :=
    fun entered fresh => ⟨action, [], rfl, by rw [fresh]; rfl, entered⟩
  rw [stride]
  -- each case is split into the call that has its turn and all others, to whose
  -- trails the action adds nothing
  generalize ((after settings actions).step action).1 = next at shows ⊢
  generalize ((after settings actions).step action).2 = notes
    at shows entering ⊢
  cases shows with
  | rest silent =>
      rw [silent call]
      exact (Trail.append_empty _).symm ▸ noticed
  | @settling turned text token result phases processor silent asleep
      opening =>
      rw [silent call, Option.toList_none]
      by_cases same : turned = call
      · subst turned
        rw [asleep] at noticed
        have fresh := noticed.trail_of_asleep
        have starts := entering
          (List.mem_append_left _ (mem_notesOf_of_opening opening call)) fresh
        rw [calls_turned_self asleep, trailIn_ended, fresh]
        exact starts.story_of_settled opening token _
      · rw [calls_turned_of_ne _ same, trailIn_ended_of_ne _ _ same,
          Trail.append_empty]
        exact noticed
  | @asking turned text token job phases processor silent asleep opening =>
      rw [silent call, Option.toList_none]
      by_cases same : turned = call
      · subst turned
        rw [asleep] at noticed
        have fresh := noticed.trail_of_asleep
        have starts := entering
          (List.mem_append_left _ (mem_notesOf_of_opening opening call)) fresh
        rw [calls_turned_self asleep, trailIn_asked, fresh]
        exact starts.story_of_unresolved opening token
      · rw [calls_turned_of_ne _ same, trailIn_asked_of_ne _ _ same,
          Trail.append_empty]
        exact noticed
  | @dropping turned text token woken asleep unwanted =>
      subst woken
      have unmoved :
          trailIn call [Note.ended turned none]
            ((after settings actions).heard? call
              (Action.wake turned)).toList = Trail.empty := rfl
      rw [unmoved, Trail.append_empty]
      by_cases same : turned = call
      · subst turned
        rw [asleep] at story
        rw [calls_turned_self asleep, story.trail_of_asleep]
        exact Story.dropped text token
      · rw [calls_turned_of_ne _ same]
        exact story.concat _
  | @goingOn turned text token job extraction later reply request answered
      waiting taken asks =>
      subst answered
      by_cases same : turned = call
      · subst turned
        rw [waiting] at story
        obtain ⟨before, requests, replies, starts, missed, rfl, exchange,
          traced⟩ := story.of_extracting
        have further := exchange.take taken
        rw [asks, Option.toList_some] at further
        have added : trailIn call [Note.asked call request] [reply] =
            ⟨[], [request], [reply]⟩ :=
          trailIn_asked call [] [reply] request
        rw [calls_turned_self waiting, heard?_eq_some waiting taken, traced,
          Option.toList_some, added]
        exact Story.waiting token (starts.concat _) missed further
      · have unmoved :
            trailIn call [Note.asked turned request] [] = Trail.empty :=
          trailIn_asked_of_ne call [] same request
        rw [calls_turned_of_ne _ same, heard?_of_ne _ same,
          Option.toList_none, unmoved, Trail.append_empty]
        exact story.concat _
  | @closing turned text token job extraction reply outcome answered waiting
      taken =>
      subst answered
      by_cases same : turned = call
      · subst turned
        rw [waiting] at story
        obtain ⟨before, requests, replies, starts, missed, rfl, exchange,
          traced⟩ := story.of_extracting
        have further := exchange.take taken
        rw [calls_turned_self waiting, heard?_eq_some waiting taken, traced,
          trailIn_ended]
        exact Story.closed token _ (starts.concat _) missed further
      · rw [calls_turned_of_ne _ same, heard?_of_ne _ same,
          Option.toList_none, trailIn_ended_of_ne _ _ same,
          Trail.append_empty]
        exact story.concat _

end Telling

/-- Every call has its story after every run. -/
theorem story_after (settings : Settings) (actions : List Action)
    (call : Nat) :
    Story settings actions call (after settings actions).calls[call]?
      (trail settings actions call) := by
  induction actions using List.reverseRecOn with
  | nil => exact Story.absent
  | append_singleton actions action story =>
      rw [after_concat, trail_concat]
      exact story_step story action

end UtilityCss.Desk

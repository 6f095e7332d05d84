import UtilityCss.Proofs.Desk.Story

/-!
# The balance of lookups and requests

Every conversion whose text is accepted looks its key up once when it starts, and
the lookup is counted once, as a hit or as a miss.  A miss asks for a context, a
context that is made is asked for its styles, and a context whose styles were
found or not is ended.  So at any moment the counters agree with the conversions
of accepted texts that have started since they were reset, and the requests agree
with the misses; the only contexts that were made and not ended are those whose
styles are still awaited.
-/

namespace UtilityCss

/-- The call whose conversion begins with the note. -/
def Note.started? : Note → Option Nat
  | Note.entered call Phase.validating => some call
  | _ => none

/-- The note asks for a context. -/
def Note.asksContext : Note → Bool
  | Note.asked _ (Request.create _) => true
  | _ => false

/-- The context whose styles are asked for. -/
def Request.computed? : Request → Option StylingContext
  | Request.compute context => some context
  | _ => none

/-- The context that is to be ended. -/
def Request.destroyed? : Request → Option StylingContext
  | Request.destroy context => some context
  | _ => none

/-- The context that a reply brings. -/
def Reply.context? : Reply → Option StylingContext
  | Reply.created (Except.ok context) => some context
  | _ => none

/-- The text is neither blank nor rejected, so its key is looked up. -/
def reaches (limit : Int) (text : String) : Bool :=
  !ClassText.isBlankText text.toList &&
    (Guard.check limit text.toList).isOk

theorem reaches_iff (limit : Int) (text : String) :
    reaches limit text = true ↔ Accepted limit text := by
  rw [reaches, Bool.and_eq_true, Bool.not_eq_true']
  constructor
  · rintro ⟨filled, passed⟩
    cases verdict : Guard.check limit text.toList with
    | error cause =>
        rw [verdict] at passed
        cases passed
    | ok => exact ⟨filled, verdict⟩
  · intro accepted
    exact ⟨accepted.filled, by rw [accepted.passed]; rfl⟩

theorem reaches_of_accepted {limit : Int} {text : String}
    (accepted : Accepted limit text) : reaches limit text = true :=
  (reaches_iff limit text).mpr accepted

theorem not_reaches_of_blank (limit : Int) {text : String}
    (empty : ClassText.isBlankText text.toList = true) :
    reaches limit text = false := by
  rw [reaches, empty]
  rfl

theorem not_reaches_of_rejected {limit : Int} {text : String}
    {cause : Rejection}
    (failed : Guard.check limit text.toList = Except.error cause) :
    reaches limit text = false := by
  rw [reaches, failed]
  exact Bool.and_false _

namespace Desk

/-! ## Lookups -/

/-- The conversions that begin with the notes, each with its text. -/
def startsIn (next : Desk) (notes : List Note) : List (Nat × String) :=
  (notes.filterMap Note.started?).filterMap fun call =>
    next.calls[call]?.map fun entry => (call, entry.text)

/-- The conversions that begin with an action and look their key up. -/
def lookups (desk : Desk) (action : Action) : List (Nat × String) :=
  (startsIn (desk.step action).1 (desk.step action).2).filter fun start =>
    reaches desk.processor.settings.maxInputLength start.2

/-- The lookups of an action that find their key. -/
def foundBy (desk : Desk) (action : Action) : List (Nat × String) :=
  (desk.lookups action).filter fun start =>
    desk.processor.cache.contains (keyOf start.2)

/-- The lookups of an action that do not find their key. -/
def missedBy (desk : Desk) (action : Action) : List (Nat × String) :=
  (desk.lookups action).filter fun start =>
    !desk.processor.cache.contains (keyOf start.2)

theorem length_lookups (desk : Desk) (action : Action) :
    (desk.lookups action).length =
      (desk.foundBy action).length + (desk.missedBy action).length := by
  rw [foundBy, missedBy, ← List.countP_eq_length_filter,
    ← List.countP_eq_length_filter]
  simpa using List.length_eq_countP_add_countP
    fun start : Nat × String =>
      desk.processor.cache.contains (keyOf start.2)

theorem countP_notesOf (call : Nat) (phases : List Phase) :
    (notesOf call phases).countP Note.asksContext = 0 := by
  rw [notesOf, List.countP_map, List.countP_eq_zero]
  exact fun _ _ => Bool.false_ne_true

/-- An opening begins one conversion, that of the call which opens. -/
theorem startsIn_opening {next : Desk} {call : Nat} {text : String}
    {token : Option Token} {progress : Progress}
    (here : next.calls[call]? = some ⟨text, token, progress⟩)
    {processor later : Processor} {opening : Opening} {phases : List Phase}
    (opens : processor.opening text = (opening, phases, later)) {last : Note}
    (silent : last.started? = none) :
    startsIn next (notesOf call phases ++ [last]) = [(call, text)] := by
  have shape := processor.opens text
  rw [opens] at shape
  have once : (notesOf call phases ++ [last]).filterMap Note.started? =
      [call] := by
    have ending : [last].filterMap Note.started? = [] := by simp [silent]
    rw [List.filterMap_append, ending]
    cases shape <;> rfl
  rw [startsIn, once, List.filterMap_cons, here]
  rfl

/-- Closing phases and single notes begin no conversion. -/
theorem startsIn_closing (next : Desk) (call : Nat) (job : Job)
    (outcome : Except Fault StyleValues) (answer : Option Conversion) :
    startsIn next
      (notesOf call (Processor.closingResult job outcome).2 ++
        [Note.ended call answer]) = [] := by
  cases outcome <;> rfl

/-! ## Conversions that start -/

/-- The conversion that starts with an action, told from the action and from
where the calls stand: one that comes in and is not delayed, or one that sleeps,
is woken and is still wanted. -/
def starting? (desk : Desk) : Action → Option (Nat × String)
  | Action.convert text _ => some (desk.calls.length, text)
  | Action.submit _ text delayed =>
      if delayed then none else some (desk.calls.length, text)
  | Action.wake call =>
      match desk.calls[call]? with
      | some ⟨text, token, Progress.asleep⟩ =>
          if desk.wants token then some (call, text) else none
      | _ => none
  | _ => none

/-- The conversion of an accepted text that starts with an action, if there is
one. -/
def accepting (limit : Int) (desk : Desk) (action : Action) :
    List (Nat × String) :=
  (desk.starting? action).toList.filter fun start => reaches limit start.2

theorem step_of_starting? {desk : Desk} {action : Action} {call : Nat}
    {text : String} (starts : desk.starting? action = some (call, text)) :
    ∃ token,
      (desk.received action).calls[call]? =
          some ⟨text, token, Progress.asleep⟩ ∧
        (desk.received action).processor = desk.processor ∧
        desk.step action = (desk.received action).start call text token := by
  cases action with
  | convert other token =>
      obtain ⟨rfl, rfl⟩ := Prod.mk.inj (Option.some.inj starts)
      exact ⟨token, received_of_arrival? rfl, rfl, rfl⟩
  | submit dispatcher other delayed =>
      cases delayed with
      | true => cases starts
      | false =>
          obtain ⟨rfl, rfl⟩ := Prod.mk.inj (Option.some.inj starts)
          exact ⟨_, received_of_arrival? rfl, rfl, rfl⟩
  | wake woken =>
      rw [starting?] at starts
      split at starts
      · rename_i sleeping token asleep
        split at starts
        · rename_i wanted
          obtain ⟨rfl, rfl⟩ := Prod.mk.inj (Option.some.inj starts)
          refine ⟨token, asleep, rfl, ?_⟩
          simp only [step, wake, asleep, wanted, if_true]
          rfl
        · cases starts
      · cases starts
  | _ => cases starts

theorem startsIn_start {desk : Desk} {call : Nat} {text : String}
    {token : Option Token}
    (asleep : desk.calls[call]? = some ⟨text, token, Progress.asleep⟩) :
    startsIn (desk.start call text token).1 (desk.start call text token).2 =
      [(call, text)] := by
  rw [start]
  rcases opening : desk.processor.opening text with
    ⟨result | job, phases, processor⟩
  · exact startsIn_opening (calls_turned_self asleep _ _) opening rfl
  · exact startsIn_opening (calls_turned_self asleep _ _) opening rfl

theorem startsIn_of_starting?_eq_none {desk : Desk} {action : Action}
    (rests : desk.starting? action = none) :
    startsIn (desk.step action).1 (desk.step action).2 = [] := by
  cases action with
  | convert text token => cases rests
  | submit dispatcher text delayed =>
      cases delayed with
      | true => rfl
      | false => cases rests
  | wake call =>
      rw [starting?] at rests
      rw [step, wake]
      split
      · rename_i text token asleep
        by_cases wanted : desk.wants token = true
        · simp [asleep, wanted] at rests
        · rw [if_neg wanted]
          rfl
      · rfl
  | reply call reply =>
      rw [step]
      split
      · rename_i text token job extraction waiting
        split
        · rename_i later taken
          cases later with
          | ended outcome => exact startsIn_closing _ call job outcome _
          | _ => rfl
        · rfl
      · rfl
  | _ => rfl

/-- What starts by the notes is what was to start. -/
theorem startsIn_step (desk : Desk) (action : Action) :
    startsIn (desk.step action).1 (desk.step action).2 =
      (desk.starting? action).toList := by
  cases starts : desk.starting? action with
  | none => exact startsIn_of_starting?_eq_none starts
  | some start =>
      obtain ⟨token, asleep, _, stepped⟩ := step_of_starting? starts
      rw [stepped, startsIn_start asleep]
      rfl

theorem lookups_eq_accepting (desk : Desk) (action : Action) :
    desk.lookups action =
      desk.accepting desk.processor.settings.maxInputLength action := by
  rw [lookups, accepting, startsIn_step]

/-- A lookup is that of an accepted text, and its conversion starts. -/
theorem step_of_lookup {desk : Desk} {action : Action} {call : Nat}
    {text : String} (lookup : (call, text) ∈ desk.lookups action) :
    Accepted desk.processor.settings.maxInputLength text ∧
      ∃ token,
        (desk.received action).calls[call]? =
            some ⟨text, token, Progress.asleep⟩ ∧
          (desk.received action).processor = desk.processor ∧
          desk.step action = (desk.received action).start call text token := by
  rw [lookups_eq_accepting] at lookup
  obtain ⟨starts, reached⟩ := List.mem_filter.mp lookup
  exact ⟨(reaches_iff _ _).mp reached,
    step_of_starting? (Option.mem_toList.mp starts)⟩

/-- A conversion whose key is not found asks for a context. -/
theorem pending?_of_missedBy {desk : Desk} {action : Action} {call : Nat}
    {text : String} (missed : (call, text) ∈ desk.missedBy action) :
    (desk.step action).1.pending? call =
      some (Request.create (classesOf text)) := by
  obtain ⟨lookup, absent⟩ := List.mem_filter.mp missed
  obtain ⟨accepted, token, asleep, kept, stepped⟩ := step_of_lookup lookup
  have miss : desk.processor.cache.peek? (keyOf text) = none := by
    rw [RecencyCache.contains_eq_isSome_peek?] at absent
    simpa using absent
  rw [stepped, start, kept, desk.processor.opening_of_miss accepted miss]
  exact pending?_of_extracting (calls_turned_self asleep _ _)

/-- What an extraction asks after a reply is not another context. -/
theorem not_asksContext_of_take? {extraction later : Extraction}
    {reply : Reply} {request : Request}
    (taken : extraction.take? reply = some later)
    (asks : later.request? = some request) (call : Nat) :
    (Note.asked call request).asksContext = false := by
  cases later with
  | creating classes =>
      unfold Extraction.take? at taken
      split at taken <;> cases taken
  | computing context =>
      cases asks
      rfl
  | destroying context outcome =>
      cases asks
      rfl
  | ended outcome => cases asks

theorem counters_closing (processor : Processor) (job : Job)
    (outcome : Except Fault StyleValues) (wanted : Bool) :
    (processor.closing job outcome wanted).2.2.hits = processor.hits ∧
      (processor.closing job outcome wanted).2.2.misses =
        processor.misses := by
  rw [Processor.closing_eq, Processor.remember]
  split
  · exact ⟨rfl, rfl⟩
  · exact ⟨rfl, rfl⟩

/-! ## One action -/

/-- The counters after an action, and the requests for a context in it. -/
structure Counted (desk : Desk) (action : Action) : Prop where
  hits : (desk.step action).1.processor.hits =
    desk.processor.hits + (desk.foundBy action).length
  misses : (desk.step action).1.processor.misses =
    desk.processor.misses + (desk.missedBy action).length
  asked : (desk.step action).2.countP Note.asksContext =
    (desk.missedBy action).length

theorem counted_step (desk : Desk) {action : Action}
    (kept : action ≠ Action.reset) : Counted desk action := by
  have shows := shows_step desk action
  suffices counted :
      (desk.step action).1.processor.hits =
          desk.processor.hits + (desk.foundBy action).length ∧
        (desk.step action).1.processor.misses =
            desk.processor.misses + (desk.missedBy action).length ∧
          (desk.step action).2.countP Note.asksContext =
            (desk.missedBy action).length from
    ⟨counted.1, counted.2.1, counted.2.2⟩
  rw [foundBy, missedBy, lookups]
  -- only the two openings begin a conversion; everywhere else the three lists
  -- are empty
  generalize (desk.step action).1 = next at shows ⊢
  generalize (desk.step action).2 = notes at shows ⊢
  cases shows with
  | rest silent =>
      cases action with
      | reset => exact absurd rfl kept
      | _ => exact ⟨rfl, rfl, rfl⟩
  | @settling call text token result phases processor silent asleep opening =>
      rw [startsIn_opening (calls_turned_self asleep _ _) opening rfl,
        List.countP_append, countP_notesOf, turned_processor]
      have opens := desk.processor.opens text
      rw [opening] at opens
      cases opens with
      | blank empty =>
          rw [List.filter_cons_of_neg (by
            simp [not_reaches_of_blank _ empty])]
          exact ⟨rfl, rfl, rfl⟩
      | rejected cause filled failed =>
          rw [List.filter_cons_of_neg (by
            simp [not_reaches_of_rejected failed])]
          exact ⟨rfl, rfl, rfl⟩
      | hit found accepted hit =>
          have present : desk.processor.cache.contains (keyOf text) = true := by
            rw [RecencyCache.contains_eq_isSome_peek?, hit]
            rfl
          rw [List.filter_cons_of_pos (by
            simpa using reaches_of_accepted accepted), List.filter_nil,
            List.filter_cons_of_pos (by simpa using present),
            List.filter_cons_of_neg (by simp [present])]
          exact ⟨rfl, rfl, rfl⟩
  | @asking call text token job phases processor silent asleep opening =>
      rw [startsIn_opening (calls_turned_self asleep _ _) opening rfl,
        List.countP_append, countP_notesOf, turned_processor]
      have opens := desk.processor.opens text
      rw [opening] at opens
      cases opens with
      | miss accepted miss =>
          have absent : desk.processor.cache.contains (keyOf text) = false := by
            rw [RecencyCache.contains_eq_isSome_peek?, miss]
            rfl
          rw [List.filter_cons_of_pos (by
            simpa using reaches_of_accepted accepted), List.filter_nil,
            List.filter_cons_of_neg (by simp [absent]),
            List.filter_cons_of_pos (by simp [absent])]
          exact ⟨rfl, rfl, rfl⟩
  | dropping woken asleep unwanted => exact ⟨rfl, rfl, rfl⟩
  | @goingOn call text token job extraction later reply request answered
      waiting taken asks =>
      refine ⟨rfl, rfl, ?_⟩
      rw [List.countP_singleton, not_asksContext_of_take? taken asks call]
      rfl
  | @closing call text token job extraction reply outcome answered waiting
      taken =>
      obtain ⟨hits, misses⟩ :=
        counters_closing desk.processor job outcome (desk.wants token)
      rw [startsIn_closing, List.countP_append, countP_notesOf,
        turned_processor, hits, misses]
      exact ⟨rfl, rfl, rfl⟩

/-! ## Runs -/

theorem gather_after_concat {α : Type} (pick : Desk → Action → List α)
    (settings : Settings) (earlier recent : List Action) (action : Action) :
    gather pick (after settings earlier) (recent ++ [action]) =
      gather pick (after settings earlier) recent ++
        pick (after settings (earlier ++ recent)) action := by
  rw [gather_append, gather, gather, List.append_nil, after_append]

/-- A split of the actions at the last reset, or at the beginning if there was
none. -/
structure SinceReset (actions earlier recent : List Action) : Prop where
  partition : actions = earlier ++ recent
  fresh : earlier = [] ∨ ∃ older, earlier = older ++ [Action.reset]
  kept : Action.reset ∉ recent

theorem counters_of_fresh (settings : Settings) {earlier : List Action}
    (fresh : earlier = [] ∨ ∃ older, earlier = older ++ [Action.reset]) :
    (after settings earlier).processor.hits = 0 ∧
      (after settings earlier).processor.misses = 0 := by
  rcases fresh with rfl | ⟨older, rfl⟩
  · exact ⟨rfl, rfl⟩
  · rw [after_concat]
    exact ⟨rfl, rfl⟩

/-- The counters are the lookups since the last reset. -/
theorem SinceReset.counters {actions earlier recent : List Action}
    (since : SinceReset actions earlier recent) (settings : Settings) :
    (after settings actions).processor.hits =
        (gather foundBy (after settings earlier) recent).length ∧
      (after settings actions).processor.misses =
        (gather missedBy (after settings earlier) recent).length := by
  obtain ⟨rfl, fresh, kept⟩ := since
  induction recent using List.reverseRecOn with
  | nil =>
      rw [List.append_nil]
      exact counters_of_fresh settings fresh
  | append_singleton recent action inductionHypothesis =>
      rw [List.mem_append, List.mem_singleton, not_or] at kept
      obtain ⟨hits, misses⟩ := inductionHypothesis kept.1
      have counted := counted_step (after settings (earlier ++ recent))
        (Ne.symm kept.2)
      rw [← List.append_assoc, after_concat, counted.hits, counted.misses,
        hits, misses, gather_after_concat, gather_after_concat,
        List.length_append, List.length_append]
      exact ⟨rfl, rfl⟩

theorem length_gather_lookups (desk : Desk) (actions : List Action) :
    (gather lookups desk actions).length =
      (gather foundBy desk actions).length +
        (gather missedBy desk actions).length := by
  induction actions generalizing desk with
  | nil => rfl
  | cons action actions inductionHypothesis =>
      rw [gather, gather, gather, List.length_append, List.length_append,
        List.length_append, inductionHypothesis, length_lookups]
      omega

theorem asked_step (desk : Desk) (action : Action) :
    (desk.step action).2.countP Note.asksContext =
      (desk.missedBy action).length := by
  by_cases kept : action = Action.reset
  · subst action
    rfl
  · exact (counted_step desk kept).asked

/-- A context is asked for at every miss and never else. -/
theorem countP_asksContext_shown (settings : Settings)
    (actions : List Action) :
    (shown settings actions).countP Note.asksContext =
      (gather missedBy (create settings) actions).length := by
  induction actions using List.reverseRecOn with
  | nil => rfl
  | append_singleton actions action inductionHypothesis =>
      rw [shown_concat, List.countP_append, inductionHypothesis, asked_step,
        gather_concat, List.length_append]

/-! ## Contexts -/

/-- The context whose styles a call awaits. -/
def computing (desk : Desk) (call : Nat) : List StylingContext :=
  match desk.calls[call]? with
  | some ⟨_, _, Progress.extracting _ (Extraction.computing context)⟩ =>
      [context]
  | _ => []

/-- The contexts that an extraction has been given are those that it has asked
the styles of, and those that it has ended but for one whose styles it
awaits. -/
theorem Exchange.contexts {classes : String} {extraction : Extraction}
    {requests : List Request} {replies : List Reply}
    (exchange : Exchange classes extraction requests replies) :
    requests.filterMap Request.computed? =
        replies.filterMap Reply.context? ∧
      replies.filterMap Reply.context? =
        requests.filterMap Request.destroyed? ++
          match extraction with
          | Extraction.computing context => [context]
          | _ => [] := by
  cases exchange <;> exact ⟨rfl, rfl⟩

theorem Story.contexts {settings : Settings} {actions : List Action}
    {call : Nat} {trail : Trail}
    (story :
      Story settings actions call (after settings actions).calls[call]?
        trail) :
    trail.requests.filterMap Request.computed? =
        trail.replies.filterMap Reply.context? ∧
      trail.replies.filterMap Reply.context? =
        trail.requests.filterMap Request.destroyed? ++
          (after settings actions).computing call := by
  rw [computing]
  generalize (after settings actions).calls[call]? = entry at story ⊢
  cases story with
  | @waiting before text token starts missed extraction requests replies
      exchange =>
      have balance := exchange.contexts
      cases extraction <;> exact balance
  | closed token wanted starts missed exchange => exact exchange.contexts
  | _ => exact ⟨rfl, rfl⟩

/-- Only a call that has missed its key makes requests. -/
theorem missed_of_requests {settings : Settings} {actions : List Action}
    {call : Nat} {entry : Call}
    (here : (after settings actions).calls[call]? = some entry)
    (asked : (trail settings actions call).requests ≠ []) :
    ∃ before, StartsAfter settings actions before call ∧
      Missed settings before entry.text := by
  have story := story_after settings actions call
  rw [here] at story
  generalize trail settings actions call = seen at story asked
  cases story with
  | waiting token starts missed exchange => exact ⟨_, starts, missed⟩
  | closed token wanted starts missed exchange => exact ⟨_, starts, missed⟩
  | _ => exact absurd rfl asked

theorem step_wake_of_unwanted {desk : Desk} {call : Nat} {text : String}
    {token : Option Token}
    (asleep : desk.calls[call]? = some ⟨text, token, Progress.asleep⟩)
    (unwanted : desk.wants token = false) :
    desk.step (Action.wake call) =
      (desk.setProgress call (Progress.ended none),
        [Note.ended call none]) := by
  rw [step, wake, asleep]
  simp only [unwanted, Bool.false_eq_true, if_false]

theorem exists_sinceReset (actions : List Action) :
    ∃ earlier recent, SinceReset actions earlier recent := by
  induction actions using List.reverseRecOn with
  | nil => exact ⟨[], [], rfl, Or.inl rfl, List.not_mem_nil⟩
  | append_singleton actions action inductionHypothesis =>
      by_cases last : action = Action.reset
      · exact ⟨actions ++ [action], [], (List.append_nil _).symm,
          Or.inr ⟨actions, by rw [last]⟩, List.not_mem_nil⟩
      · obtain ⟨earlier, recent, rfl, fresh, kept⟩ := inductionHypothesis
        refine ⟨earlier, recent ++ [action], List.append_assoc _ _ _, fresh, ?_⟩
        simp [kept, Ne.symm last]

theorem lookups_after (settings : Settings) (actions : List Action)
    (action : Action) :
    (after settings actions).lookups action =
      (after settings actions).accepting settings.maxInputLength action := by
  rw [lookups_eq_accepting, (orderly_after settings actions).fixed]

theorem gather_lookups (settings : Settings) (earlier recent : List Action) :
    gather lookups (after settings earlier) recent =
      gather (accepting settings.maxInputLength) (after settings earlier)
        recent := by
  induction recent using List.reverseRecOn with
  | nil => rfl
  | append_singleton recent action inductionHypothesis =>
      rw [gather_after_concat, gather_after_concat, inductionHypothesis,
        lookups_after]

/-- As long as a call awaits its styles it has heard nothing of them. -/
theorem not_computed_of_computing {settings : Settings}
    {actions : List Action} {call : Nat} {context : StylingContext}
    (awaits : context ∈ (after settings actions).computing call)
    (outcome : Except Fault StyleValues) :
    Reply.computed outcome ∉ (trail settings actions call).replies := by
  have story := story_after settings actions call
  rw [computing] at awaits
  generalize (after settings actions).calls[call]? = entry at story awaits
  generalize trail settings actions call = seen at story
  cases story with
  | waiting token starts missed exchange =>
      cases exchange with
      | computing asked => simp
      | _ => cases awaits
  | _ => cases awaits

/-- How lookups, counters and requests balance after the actions. -/
structure Balanced (settings : Settings) (actions : List Action) : Prop where
  split : ∃ earlier recent, SinceReset actions earlier recent
  /-- The lookups in an action are the conversion of an accepted text that starts
  with it, and no others. -/
  looks : ∀ before action rest, actions = before ++ action :: rest →
    (after settings before).lookups action =
      (after settings before).accepting settings.maxInputLength action
  /-- The counters are the lookups since the last reset, and together the
  conversions of accepted texts that have started since. -/
  counters : ∀ earlier recent, SinceReset actions earlier recent →
    (after settings actions).processor.hits =
        (gather foundBy (after settings earlier) recent).length ∧
      (after settings actions).processor.misses =
        (gather missedBy (after settings earlier) recent).length ∧
      (after settings actions).processor.hits +
          (after settings actions).processor.misses =
        (gather (accepting settings.maxInputLength) (after settings earlier)
          recent).length
  room : (after settings actions).processor.cache.size ≤
      (after settings actions).processor.cache.capacity ∧
    (after settings actions).processor.cache.capacity = settings.cacheCapacity
  /-- A context is asked for at every miss, resets or not. -/
  creates : (shown settings actions).countP Note.asksContext =
    (gather missedBy (create settings) actions).length
  /-- The call that has missed its key asks for it. -/
  waits : ∀ before action rest, actions = before ++ action :: rest →
    ∀ call text, (call, text) ∈ (after settings before).missedBy action →
      (after settings (before ++ [action])).pending? call =
        some (Request.create (classesOf text))
  /-- A call hears the replies to what it asks, and no others. -/
  hears : ∀ call request,
    (after settings actions).pending? call = some request → ∀ reply,
      (after settings actions).heard? call (Action.reply call reply) =
          some reply ↔ reply.Answers request
  /-- Every context that a call was given is asked for its styles once. -/
  computes : ∀ call,
    (trail settings actions call).requests.filterMap Request.computed? =
      (trail settings actions call).replies.filterMap Reply.context?
  /-- Styles are awaited until there is a reply about them. -/
  awaits : ∀ call context, context ∈ (after settings actions).computing call →
    ∀ outcome, Reply.computed outcome ∉ (trail settings actions call).replies
  /-- Every context that a call was given is ended once, unless its styles are
  still awaited. -/
  destroys : ∀ call,
    (trail settings actions call).replies.filterMap Reply.context? =
      (trail settings actions call).requests.filterMap Request.destroyed? ++
        (after settings actions).computing call
  /-- A call that makes a request has missed its key. -/
  asks : ∀ (call : Nat) entry,
    (after settings actions).calls[call]? = some entry →
      (trail settings actions call).requests ≠ [] →
        ∃ before, StartsAfter settings actions before call ∧
          Missed settings before entry.text
  /-- Nothing but a lookup and a reset changes a counter. -/
  counted : ∀ before action rest, actions = before ++ action :: rest →
    action ≠ Action.reset →
      (after settings (before ++ [action])).processor.hits =
          (after settings before).processor.hits +
            ((after settings before).foundBy action).length ∧
        (after settings (before ++ [action])).processor.misses =
          (after settings before).processor.misses +
            ((after settings before).missedBy action).length
  /-- A submission that is dropped leaves the processor as it is. -/
  dropped : ∀ before call rest text token,
    actions = before ++ Action.wake call :: rest →
      (after settings before).calls[call]? =
          some ⟨text, token, Progress.asleep⟩ →
        (after settings before).wants token = false →
          (after settings (before ++ [Action.wake call])).processor =
              (after settings before).processor ∧
            ((after settings before).step (Action.wake call)).2 =
              [Note.ended call none]

/-- However the calls of a processor overlap, whatever its resolver replies and
whenever the cache is reset, lookups, counters and requests balance at every
moment. -/
theorem balanced_after (settings : Settings) (actions : List Action) :
    Balanced settings actions where
  split := exists_sinceReset actions
  looks before action _ _ := lookups_after settings before action
  counters earlier recent since := by
    obtain ⟨hits, misses⟩ := since.counters settings
    refine ⟨hits, misses, ?_⟩
    rw [← gather_lookups, length_gather_lookups, hits, misses]
  room := ⟨(orderly_after settings actions).room,
    (orderly_after settings actions).capacity⟩
  creates := countP_asksContext_shown settings actions
  waits before action _ _ call text missed := by
    rw [after_concat]
    exact pending?_of_missedBy missed
  hears _ _ pending reply := heard?_eq_some_iff pending reply
  computes call := (story_after settings actions call).contexts.1
  awaits _ _ awaits outcome := not_computed_of_computing awaits outcome
  destroys call := (story_after settings actions call).contexts.2
  asks _ _ here asked := missed_of_requests here asked
  counted before action rest _ kept := by
    have counted := counted_step (after settings before) kept
    rw [after_concat]
    exact ⟨counted.hits, counted.misses⟩
  dropped before call rest text token _ asleep unwanted := by
    rw [after_concat, step_wake_of_unwanted asleep unwanted]
    exact ⟨rfl, rfl⟩

end Desk

end UtilityCss

import UtilityCss.Proofs.Desk.Run

/-!
# What calls show of themselves

Calls at one desk share its processor, so what they show is a shuffle.  The
trail of a single call is what the shuffle has of this call: the phases it
enters, the requests it makes, and the replies it takes.  An action adds to the
trail of one call at most.
-/

namespace UtilityCss

/-- The phase that a note reports of a call. -/
def Note.phase? (call : Nat) : Note → Option Phase
  | Note.entered other phase => if other = call then some phase else none
  | _ => none

/-- The request that a note reports of a call. -/
def Note.request? (call : Nat) : Note → Option Request
  | Note.asked other request => if other = call then some request else none
  | _ => none

/-! ## Replies -/

/-- The reply is of the kind that the request asks for. -/
inductive Reply.Answers : Reply → Request → Prop
  | created (classes : String) (outcome : Except Fault StylingContext) :
      Reply.Answers (Reply.created outcome) (Request.create classes)
  | computed (context : StylingContext) (outcome : Except Fault StyleValues) :
      Reply.Answers (Reply.computed outcome) (Request.compute context)
  | destroyed (context : StylingContext) (outcome : Except Fault Unit) :
      Reply.Answers (Reply.destroyed outcome) (Request.destroy context)

/-- What an extraction takes are replies to what it asks. -/
theorem Extraction.answers_iff {extraction : Extraction} {request : Request}
    (asks : extraction.request? = some request) (reply : Reply) :
    reply.Answers request ↔ ∃ later, extraction.take? reply = some later := by
  cases extraction with
  | creating classes =>
      cases asks
      rcases reply with ⟨fault | context⟩ | outcome | outcome
      · exact iff_of_true (Reply.Answers.created classes _) ⟨_, rfl⟩
      · exact iff_of_true (Reply.Answers.created classes _) ⟨_, rfl⟩
      · exact iff_of_false (by rintro ⟨⟩) (by rintro ⟨_, ⟨⟩⟩)
      · exact iff_of_false (by rintro ⟨⟩) (by rintro ⟨_, ⟨⟩⟩)
  | computing context =>
      cases asks
      rcases reply with outcome | outcome | outcome
      · exact iff_of_false (by rintro ⟨⟩) (by rintro ⟨_, ⟨⟩⟩)
      · exact iff_of_true (Reply.Answers.computed context outcome) ⟨_, rfl⟩
      · exact iff_of_false (by rintro ⟨⟩) (by rintro ⟨_, ⟨⟩⟩)
  | destroying context found =>
      cases asks
      rcases reply with outcome | outcome | outcome
      · exact iff_of_false (by rintro ⟨⟩) (by rintro ⟨_, ⟨⟩⟩)
      · exact iff_of_false (by rintro ⟨⟩) (by rintro ⟨_, ⟨⟩⟩)
      · exact iff_of_true (Reply.Answers.destroyed context outcome) ⟨_, rfl⟩
  | ended outcome => cases asks

/-- With every reply fewer of them are ahead. -/
theorem Extraction.remaining_lt_of_take? {extraction later : Extraction}
    {reply : Reply} (taken : extraction.take? reply = some later) :
    later.remaining < extraction.remaining := by
  unfold Extraction.take? at taken
  split at taken
  all_goals cases taken
  all_goals simp [Extraction.remaining]

namespace Desk

/-! ## Along a run -/

section Gathering

variable {α : Type}

/-- What is picked at every action of a run, in order. -/
def gather (pick : Desk → Action → List α) : Desk → List Action → List α
  | _, [] => []
  | desk, action :: actions =>
      pick desk action ++ gather pick (desk.step action).1 actions

theorem gather_append (pick : Desk → Action → List α) (desk : Desk)
    (first second : List Action) :
    gather pick desk (first ++ second) =
      gather pick desk first ++ gather pick (desk.run first).1 second := by
  induction first generalizing desk with
  | nil => rfl
  | cons action actions inductionHypothesis =>
      rw [List.cons_append, gather, gather, inductionHypothesis,
        List.append_assoc, run_cons]

theorem gather_concat (pick : Desk → Action → List α) (settings : Settings)
    (actions : List Action) (action : Action) :
    gather pick (create settings) (actions ++ [action]) =
      gather pick (create settings) actions ++
        pick (after settings actions) action := by
  rw [gather_append, gather, gather, List.append_nil, after]

end Gathering

/-- Everything that calls show during the actions. -/
def shown (settings : Settings) (actions : List Action) : List Note :=
  ((create settings).run actions).2

theorem run_snd_eq_gather (desk : Desk) (actions : List Action) :
    (desk.run actions).2 =
      gather (fun desk action => (desk.step action).2) desk actions := by
  induction actions generalizing desk with
  | nil => rfl
  | cons action actions inductionHypothesis =>
      rw [gather, ← inductionHypothesis]
      rfl

theorem shown_concat (settings : Settings) (actions : List Action)
    (action : Action) :
    shown settings (actions ++ [action]) =
      shown settings actions ++ ((after settings actions).step action).2 := by
  rw [shown, shown, run_snd_eq_gather, run_snd_eq_gather, gather_concat]

/-! ## Trails -/

/-- The reply that an action brings to a call, if the call waits for it. -/
def heard? (desk : Desk) (call : Nat) : Action → Option Reply
  | Action.reply other reply =>
      if other = call then
        match desk.calls[call]? with
        | some ⟨_, _, Progress.extracting _ extraction⟩ =>
            (extraction.take? reply).map fun _ => reply
        | _ => none
      else none
  | _ => none

/-- What has been seen of a call. -/
structure Trail where
  phases : List Phase
  requests : List Request
  replies : List Reply

namespace Trail

def empty : Trail := ⟨[], [], []⟩

def append (trail more : Trail) : Trail :=
  ⟨trail.phases ++ more.phases, trail.requests ++ more.requests,
    trail.replies ++ more.replies⟩

@[simp]
theorem append_empty (trail : Trail) : trail.append empty = trail := by
  simp [append, empty]

end Trail

/-- What notes report of a call that takes these replies. -/
def trailIn (call : Nat) (notes : List Note) (replies : List Reply) : Trail :=
  ⟨notes.filterMap (Note.phase? call), notes.filterMap (Note.request? call),
    replies⟩

/-- The trail of a call over the actions. -/
def trail (settings : Settings) (actions : List Action) (call : Nat) : Trail :=
  trailIn call (shown settings actions)
    (gather (fun desk action => (desk.heard? call action).toList)
      (create settings) actions)

/-- What an action adds to the trail of a call. -/
def stride (desk : Desk) (action : Action) (call : Nat) : Trail :=
  trailIn call (desk.step action).2 (desk.heard? call action).toList

theorem trail_concat (settings : Settings) (actions : List Action)
    (action : Action) (call : Nat) :
    trail settings (actions ++ [action]) call =
      (trail settings actions call).append
        ((after settings actions).stride action call) := by
  rw [trail, trail, stride, shown_concat, gather_concat, trailIn, trailIn,
    trailIn, List.filterMap_append, List.filterMap_append, Trail.append]

section Reports

variable (call : Nat) (phases : List Phase) (replies : List Reply)

theorem phases_notesOf :
    (notesOf call phases).filterMap (Note.phase? call) = phases := by
  induction phases with
  | nil => rfl
  | cons phase phases inductionHypothesis =>
      rw [notesOf, List.map_cons, List.filterMap_cons, ← notesOf,
        inductionHypothesis, Note.phase?, if_pos rfl]

theorem requests_notesOf (other : Nat) :
    (notesOf other phases).filterMap (Note.request? call) = [] := by
  rw [notesOf, List.filterMap_map, List.filterMap_eq_nil_iff]
  exact fun _ _ => rfl

theorem phases_notesOf_of_ne {other : Nat} (different : other ≠ call) :
    (notesOf other phases).filterMap (Note.phase? call) = [] := by
  rw [notesOf, List.filterMap_map, List.filterMap_eq_nil_iff]
  exact fun _ _ => if_neg different

theorem trailIn_ended (answer : Option Conversion) :
    trailIn call (notesOf call phases ++ [Note.ended call answer]) replies =
      ⟨phases, [], replies⟩ := by
  rw [trailIn, List.filterMap_append, List.filterMap_append, phases_notesOf,
    requests_notesOf]
  simp [Note.phase?, Note.request?]

theorem trailIn_asked (request : Request) :
    trailIn call (notesOf call phases ++ [Note.asked call request]) replies =
      ⟨phases, [request], replies⟩ := by
  rw [trailIn, List.filterMap_append, List.filterMap_append, phases_notesOf,
    requests_notesOf]
  simp [Note.phase?, Note.request?]

theorem trailIn_ended_of_ne {other : Nat} (different : other ≠ call)
    (answer : Option Conversion) :
    trailIn call (notesOf other phases ++ [Note.ended other answer]) [] =
      Trail.empty := by
  rw [trailIn, List.filterMap_append, List.filterMap_append,
    phases_notesOf_of_ne call phases different, requests_notesOf]
  rfl

theorem trailIn_asked_of_ne {other : Nat} (different : other ≠ call)
    (request : Request) :
    trailIn call (notesOf other phases ++ [Note.asked other request]) [] =
      Trail.empty := by
  rw [trailIn, List.filterMap_append, List.filterMap_append,
    phases_notesOf_of_ne call phases different, requests_notesOf]
  simp [Note.phase?, Note.request?, different, Trail.empty]

end Reports

/-! ## One action with what it shows -/

/-- The desk when a call has had its turn. -/
def turned (desk : Desk) (processor : Processor) (call : Nat)
    (progress : Progress) : Desk :=
  { desk with processor := processor }.setProgress call progress

@[simp]
theorem turned_processor (desk : Desk) (processor : Processor) (call : Nat)
    (progress : Progress) :
    (desk.turned processor call progress).processor = processor :=
  rfl

theorem calls_turned_self {desk : Desk} {call : Nat} {text : String}
    {token : Option Token} {before : Progress}
    (here : desk.calls[call]? = some ⟨text, token, before⟩)
    (processor : Processor) (progress : Progress) :
    (desk.turned processor call progress).calls[call]? =
      some ⟨text, token, progress⟩ := by
  rw [turned, getElem?_setProgress, if_pos rfl, here]
  rfl

theorem calls_turned_of_ne (desk : Desk) {call other : Nat}
    (different : call ≠ other) (processor : Processor) (progress : Progress) :
    (desk.turned processor call progress).calls[other]? =
      desk.calls[other]? := by
  rw [turned, getElem?_setProgress, if_neg different]

/-- The action brings no call a reply that it waits for. -/
def Silent (desk : Desk) (action : Action) : Prop :=
  ∀ call, desk.heard? call action = none

/-- What an action may do at a desk, and what is shown of it. -/
inductive Shows (desk : Desk) (action : Action) : Desk → List Note → Prop
  where
  | rest (silent : desk.Silent action) :
      Shows desk action (desk.received action) []
  | settling {call : Nat} {text : String} {token : Option Token}
      {result : Conversion} {phases : List Phase} {processor : Processor}
      (silent : desk.Silent action)
      (asleep :
        (desk.received action).calls[call]? =
          some ⟨text, token, Progress.asleep⟩)
      (opening :
        desk.processor.opening text =
          (Opening.settled result, phases, processor)) :
      Shows desk action
        ((desk.received action).turned processor call
          (Progress.ended
            (Processor.commit ((desk.received action).wants token) result)))
        (notesOf call phases ++
          [Note.ended call
            (Processor.commit ((desk.received action).wants token) result)])
  | asking {call : Nat} {text : String} {token : Option Token} {job : Job}
      {phases : List Phase} {processor : Processor}
      (silent : desk.Silent action)
      (asleep :
        (desk.received action).calls[call]? =
          some ⟨text, token, Progress.asleep⟩)
      (opening :
        desk.processor.opening text =
          (Opening.unresolved job, phases, processor)) :
      Shows desk action
        ((desk.received action).turned processor call
          (Progress.extracting job (Extraction.creating job.classes)))
        (notesOf call phases ++
          [Note.asked call (Request.create job.classes)])
  | dropping {call : Nat} {text : String} {token : Option Token}
      (woken : action = Action.wake call)
      (asleep :
        desk.calls[call]? = some ⟨text, token, Progress.asleep⟩)
      (unwanted : desk.wants token = false) :
      Shows desk action
        (desk.turned desk.processor call (Progress.ended none))
        [Note.ended call none]
  | goingOn {call : Nat} {text : String} {token : Option Token} {job : Job}
      {extraction later : Extraction} {reply : Reply} {request : Request}
      (answered : action = Action.reply call reply)
      (waiting :
        desk.calls[call]? =
          some ⟨text, token, Progress.extracting job extraction⟩)
      (taken : extraction.take? reply = some later)
      (asks : later.request? = some request) :
      Shows desk action
        (desk.turned desk.processor call (Progress.extracting job later))
        [Note.asked call request]
  | closing {call : Nat} {text : String} {token : Option Token} {job : Job}
      {extraction : Extraction} {reply : Reply}
      {outcome : Except Fault StyleValues}
      (answered : action = Action.reply call reply)
      (waiting :
        desk.calls[call]? =
          some ⟨text, token, Progress.extracting job extraction⟩)
      (taken : extraction.take? reply = some (Extraction.ended outcome)) :
      Shows desk action
        (desk.turned
          (desk.processor.closing job outcome (desk.wants token)).2.2 call
          (Progress.ended
            (Processor.commit (desk.wants token)
              (Processor.closingResult job outcome).1)))
        (notesOf call (Processor.closingResult job outcome).2 ++
          [Note.ended call
            (Processor.commit (desk.wants token)
              (Processor.closingResult job outcome).1)])

theorem heard?_eq_some {desk : Desk} {call : Nat} {text : String}
    {token : Option Token} {job : Job} {extraction later : Extraction}
    {reply : Reply}
    (waiting :
      desk.calls[call]? =
        some ⟨text, token, Progress.extracting job extraction⟩)
    (taken : extraction.take? reply = some later) :
    desk.heard? call (Action.reply call reply) = some reply := by
  rw [heard?, if_pos rfl, waiting]
  simp only [taken, Option.map_some]

/-- A call hears the replies to what it asks, and no others. -/
theorem heard?_eq_some_iff {desk : Desk} {call : Nat} {request : Request}
    (pending : desk.pending? call = some request) (reply : Reply) :
    desk.heard? call (Action.reply call reply) = some reply ↔
      reply.Answers request := by
  obtain ⟨text, token, job, extraction, waiting, asks⟩ :=
    extracting_of_pending? pending
  rw [Extraction.answers_iff asks, heard?, if_pos rfl, waiting]
  cases taken : extraction.take? reply with
  | none => simp [taken]
  | some later => simp [taken]

theorem heard?_of_ne (desk : Desk) {call other : Nat}
    (different : other ≠ call) (reply : Reply) :
    desk.heard? call (Action.reply other reply) = none := by
  rw [heard?, if_neg different]

theorem silent_of_unheard {desk : Desk} {call : Nat} {reply : Reply}
    (unheard : desk.heard? call (Action.reply call reply) = none) :
    desk.Silent (Action.reply call reply) := by
  intro other
  by_cases same : call = other
  · exact same ▸ unheard
  · exact desk.heard?_of_ne same reply

theorem shows_start {desk : Desk} (action : Action) {call : Nat}
    {text : String} {token : Option Token} (silent : desk.Silent action)
    (asleep :
      (desk.received action).calls[call]? =
        some ⟨text, token, Progress.asleep⟩)
    (kept : (desk.received action).processor = desk.processor) :
    Shows desk action ((desk.received action).start call text token).1
      ((desk.received action).start call text token).2 := by
  rw [start]
  rcases opening : (desk.received action).processor.opening text with
    ⟨result | job, phases, processor⟩
  · exact Shows.settling silent asleep (kept ▸ opening)
  · exact Shows.asking silent asleep (kept ▸ opening)

theorem shows_continueWith {desk : Desk} {call : Nat} {text : String}
    {token : Option Token} {job : Job} {extraction later : Extraction}
    {reply : Reply}
    (waiting :
      desk.calls[call]? =
        some ⟨text, token, Progress.extracting job extraction⟩)
    (taken : extraction.take? reply = some later) :
    Shows desk (Action.reply call reply)
      (desk.continueWith call token job later).1
      (desk.continueWith call token job later).2 := by
  cases later with
  | ended outcome => exact Shows.closing rfl waiting taken
  | creating classes => exact Shows.goingOn rfl waiting taken rfl
  | computing context => exact Shows.goingOn rfl waiting taken rfl
  | destroying context outcome => exact Shows.goingOn rfl waiting taken rfl

theorem shows_step (desk : Desk) (action : Action) :
    Shows desk action (desk.step action).1 (desk.step action).2 := by
  cases action with
  | issue dispatcher => exact Shows.rest fun _ => rfl
  | cancel dispatcher => exact Shows.rest fun _ => rfl
  | reset => exact Shows.rest fun _ => rfl
  | convert text token =>
      exact shows_start (Action.convert text token) (fun _ => rfl)
        (received_of_arrival? rfl) rfl
  | submit dispatcher text delayed =>
      cases delayed with
      | true => exact Shows.rest fun _ => rfl
      | false =>
          exact shows_start (Action.submit dispatcher text false)
            (fun _ => rfl) (received_of_arrival? rfl) rfl
  | wake call =>
      rw [step, wake]
      split
      · rename_i text token asleep
        by_cases wanted : desk.wants token = true
        · rw [if_pos wanted]
          exact shows_start (Action.wake call) (fun _ => rfl) asleep rfl
        · rw [if_neg wanted]
          exact Shows.dropping rfl asleep (by simpa using wanted)
      · exact Shows.rest fun _ => rfl
  | reply call reply =>
      rw [step]
      split
      · rename_i text token job extraction waiting
        split
        · rename_i later taken
          exact shows_continueWith waiting taken
        · rename_i ignored
          refine Shows.rest (silent_of_unheard ?_)
          rw [heard?, if_pos rfl, waiting]
          simp only [ignored, Option.map_none]
      · rename_i idle
        refine Shows.rest (silent_of_unheard ?_)
        rw [heard?, if_pos rfl]
        split
        · rename_i text token job extraction waiting
          exact absurd waiting (idle text token job extraction)
        · rfl

end Desk

end UtilityCss

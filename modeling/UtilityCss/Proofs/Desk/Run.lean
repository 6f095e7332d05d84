import UtilityCss.Desk

/-!
# Runs of a desk

An action at a desk has two parts.  First the desk takes notice of it: a
dispatcher moves on, the cache is cleared, or a call comes in and sleeps.  Then
at most one call has its turn: it opens, is dropped, or goes on after a reply.
What holds of a fresh desk and is kept by both parts holds after every run.
-/

namespace UtilityCss.Desk

/-- The desk of a fresh processor after some actions. -/
def after (settings : Settings) (actions : List Action) : Desk :=
  ((create settings).run actions).1

theorem run_append (desk : Desk) (first second : List Action) :
    (desk.run (first ++ second)).1 = ((desk.run first).1.run second).1 := by
  induction first generalizing desk with
  | nil => rfl
  | cons action actions inductionHypothesis =>
      exact inductionHypothesis (desk.step action).1

theorem run_cons (desk : Desk) (action : Action) (actions : List Action) :
    (desk.run (action :: actions)).1 =
      ((desk.step action).1.run actions).1 :=
  rfl

theorem after_append (settings : Settings) (first second : List Action) :
    after settings (first ++ second) =
      ((after settings first).run second).1 :=
  run_append _ first second

theorem after_concat (settings : Settings) (actions : List Action)
    (action : Action) :
    after settings (actions ++ [action]) =
      ((after settings actions).step action).1 :=
  after_append settings actions [action]

/-! ## Taking notice of an action -/

/-- The desk when it has taken notice of an action and no call has gone on
yet. -/
def received (desk : Desk) : Action → Desk
  | Action.issue dispatcher => desk.advance dispatcher
  | Action.cancel dispatcher => desk.advance dispatcher
  | Action.convert text token => desk.addCall text token
  | Action.submit dispatcher text _ =>
      (desk.advance dispatcher).addCall text
        (some ((desk.advance dispatcher).latest dispatcher))
  | Action.reset => { desk with processor := desk.processor.reset }
  | Action.wake _ => desk
  | Action.reply _ _ => desk

/-- The call that comes in with an action. -/
def arrival? (desk : Desk) : Action → Option Call
  | Action.convert text token => some ⟨text, token, Progress.asleep⟩
  | Action.submit dispatcher text _ =>
      some ⟨text, some ((desk.advance dispatcher).latest dispatcher),
        Progress.asleep⟩
  | _ => none

theorem received_calls (desk : Desk) (action : Action) :
    (desk.received action).calls =
      desk.calls ++ (desk.arrival? action).toList := by
  cases action with
  | convert text token => rfl
  | submit dispatcher text delayed => rfl
  | _ => exact (List.append_nil _).symm

theorem asleep_of_arrival? {desk : Desk} {action : Action} {entry : Call}
    (arrives : desk.arrival? action = some entry) :
    entry.progress = Progress.asleep := by
  cases action with
  | convert text token =>
      obtain rfl := Option.some.inj arrives
      rfl
  | submit dispatcher text delayed =>
      obtain rfl := Option.some.inj arrives
      rfl
  | _ => cases arrives

theorem received_call_cases {desk : Desk} {action : Action} {call : Nat}
    {entry : Call}
    (here : (desk.received action).calls[call]? = some entry) :
    desk.calls[call]? = some entry ∨
      (call = desk.calls.length ∧ desk.arrival? action = some entry) := by
  rw [received_calls, List.getElem?_append] at here
  split at here
  · exact Or.inl here
  · rename_i outside
    right
    cases arrives : desk.arrival? action with
    | none => simp [arrives] at here
    | some incoming =>
        rw [arrives, Option.toList_some, List.getElem?_singleton] at here
        split at here
        · cases here
          exact ⟨by omega, rfl⟩
        · cases here

theorem received_of_call {desk : Desk} {call : Nat} {entry : Call}
    (here : desk.calls[call]? = some entry) (action : Action) :
    (desk.received action).calls[call]? = some entry := by
  obtain ⟨inside, _⟩ := List.getElem?_eq_some_iff.mp here
  rw [received_calls, List.getElem?_append_left inside, here]

theorem received_of_arrival? {desk : Desk} {action : Action} {entry : Call}
    (arrives : desk.arrival? action = some entry) :
    (desk.received action).calls[desk.calls.length]? = some entry := by
  rw [received_calls, arrives, List.getElem?_append_right (Nat.le_refl _),
    Nat.sub_self]
  rfl

/-! ## The turn of a call -/

/-- Where a call stands when it has opened. -/
def opened (desk : Desk) (text : String) (token : Option Token) : Progress :=
  match (desk.processor.opening text).1 with
  | Opening.settled result =>
      Progress.ended (Processor.commit (desk.wants token) result)
  | Opening.unresolved job =>
      Progress.extracting job (Extraction.creating job.classes)

/-- Where a call stands when its extraction has gone on. -/
def continued (desk : Desk) (token : Option Token) (job : Job) :
    Extraction → Progress
  | Extraction.ended outcome =>
      Progress.ended
        (Processor.commit (desk.wants token)
          (Processor.closingResult job outcome).1)
  | waiting => Progress.extracting job waiting

/-- The processor when the extraction of a call has gone on. -/
def closed (desk : Desk) (token : Option Token) (job : Job) :
    Extraction → Processor
  | Extraction.ended outcome =>
      (desk.processor.closing job outcome (desk.wants token)).2.2
  | _ => desk.processor

theorem start_eq (desk : Desk) (call : Nat) (text : String)
    (token : Option Token) :
    (desk.start call text token).1 =
      { desk with processor := (desk.processor.opening text).2.2 }.setProgress
        call (desk.opened text token) := by
  rw [start, opened]
  rcases desk.processor.opening text with ⟨result | job, phases, processor⟩
  · rfl
  · rfl

theorem continueWith_eq (desk : Desk) (call : Nat) (token : Option Token)
    (job : Job) (extraction : Extraction) :
    (desk.continueWith call token job extraction).1 =
      { desk with processor := desk.closed token job extraction }.setProgress
        call (desk.continued token job extraction) := by
  cases extraction with
  | ended outcome => rfl
  | _ => rfl

/-- What may happen to a desk after it has taken notice of an action. -/
inductive Turn (desk : Desk) (action : Action) : Desk → Prop where
  | rest : Turn desk action desk
  | opening {call : Nat} {text : String} {token : Option Token}
      (asleep : desk.calls[call]? = some ⟨text, token, Progress.asleep⟩) :
      Turn desk action
        ({ desk with processor := (desk.processor.opening text).2.2 }.setProgress
          call (desk.opened text token))
  | dropping {call : Nat} {text : String} {token : Option Token}
      (asleep : desk.calls[call]? = some ⟨text, token, Progress.asleep⟩)
      (unwanted : desk.wants token = false) :
      Turn desk action (desk.setProgress call (Progress.ended none))
  | continuing {call : Nat} {text : String} {token : Option Token} {job : Job}
      {extraction later : Extraction} {reply : Reply}
      (answered : action = Action.reply call reply)
      (waiting :
        desk.calls[call]? =
          some ⟨text, token, Progress.extracting job extraction⟩)
      (taken : extraction.take? reply = some later) :
      Turn desk action
        ({ desk with processor := desk.closed token job later }.setProgress
          call (desk.continued token job later))

/-- Every action is taken notice of and then gives one call its turn at most. -/
theorem turn_step (desk : Desk) (action : Action) :
    Turn (desk.received action) action (desk.step action).1 := by
  cases action with
  | issue dispatcher => exact Turn.rest
  | cancel dispatcher => exact Turn.rest
  | reset => exact Turn.rest
  | convert text token =>
      rw [step, start_eq]
      exact Turn.opening (received_of_arrival? rfl)
  | submit dispatcher text delayed =>
      cases delayed with
      | true => exact Turn.rest
      | false =>
          have asleep :
              (desk.received (Action.submit dispatcher text false)).calls[
                  desk.calls.length]? =
                some ⟨text, some ((desk.advance dispatcher).latest dispatcher),
                  Progress.asleep⟩ :=
            received_of_arrival? rfl
          rw [step, if_neg (by decide), start_eq]
          exact Turn.opening asleep
  | wake call =>
      rw [step, wake, received]
      split
      · rename_i text token asleep
        by_cases wanted : desk.wants token = true
        · rw [if_pos wanted, start_eq]
          exact Turn.opening asleep
        · rw [if_neg wanted]
          exact Turn.dropping asleep (by simpa using wanted)
      · exact Turn.rest
  | reply call reply =>
      rw [step, received]
      split
      · rename_i text token job extraction waiting
        split
        · rename_i later taken
          rw [continueWith_eq]
          exact Turn.continuing rfl waiting taken
        · exact Turn.rest
      · exact Turn.rest

/-! ## What a turn leaves as it is -/

theorem getElem?_setProgress (desk : Desk) (call other : Nat)
    (progress : Progress) :
    (desk.setProgress call progress).calls[other]? =
      if call = other then
        desk.calls[other]?.map fun entry => { entry with progress := progress }
      else desk.calls[other]? := by
  rw [setProgress, List.getElem?_modify]
  split
  · rfl
  · simp

theorem setProgress_call_cases {desk : Desk} {call other : Nat}
    {text : String} {token : Option Token} {before progress : Progress}
    {entry : Call}
    (here : desk.calls[call]? = some ⟨text, token, before⟩)
    (there : (desk.setProgress call progress).calls[other]? = some entry) :
    (other = call ∧ entry = ⟨text, token, progress⟩) ∨
      (other ≠ call ∧ desk.calls[other]? = some entry) := by
  rw [getElem?_setProgress] at there
  split at there
  · subst other
    rw [here] at there
    exact Or.inl ⟨rfl, (Option.some.inj there).symm⟩
  · rename_i different
    exact Or.inr ⟨Ne.symm different, there⟩

theorem Turn.generations {desk next : Desk} {action : Action}
    (turn : Turn desk action next) : next.generations = desk.generations := by
  cases turn <;> rfl

theorem Turn.wants {desk next : Desk} {action : Action}
    (turn : Turn desk action next) (token : Option Token) :
    next.wants token = desk.wants token := by
  cases token with
  | none => rfl
  | some token => rw [Desk.wants, Desk.wants, isCurrent, isCurrent,
      turn.generations]

/-- How a call can stand differently after a turn. -/
inductive Changed (desk : Desk) (action : Action) (call : Nat) : Call → Prop
  where
  | opening {text : String} {token : Option Token}
      (asleep : desk.calls[call]? = some ⟨text, token, Progress.asleep⟩) :
      Changed desk action call ⟨text, token, desk.opened text token⟩
  | dropping {text : String} {token : Option Token}
      (asleep : desk.calls[call]? = some ⟨text, token, Progress.asleep⟩)
      (unwanted : desk.wants token = false) :
      Changed desk action call ⟨text, token, Progress.ended none⟩
  | continuing {text : String} {token : Option Token} {job : Job}
      {extraction later : Extraction} {reply : Reply}
      (answered : action = Action.reply call reply)
      (waiting :
        desk.calls[call]? =
          some ⟨text, token, Progress.extracting job extraction⟩)
      (taken : extraction.take? reply = some later) :
      Changed desk action call ⟨text, token, desk.continued token job later⟩

theorem Turn.call_cases {desk next : Desk} {action : Action}
    (turn : Turn desk action next) {call : Nat} {entry : Call}
    (here : next.calls[call]? = some entry) :
    desk.calls[call]? = some entry ∨ Changed desk action call entry := by
  cases turn with
  | rest => exact Or.inl here
  | opening asleep =>
      rcases setProgress_call_cases asleep here with ⟨rfl, rfl⟩ | ⟨_, old⟩
      · exact Or.inr (Changed.opening asleep)
      · exact Or.inl old
  | dropping asleep unwanted =>
      rcases setProgress_call_cases asleep here with ⟨rfl, rfl⟩ | ⟨_, old⟩
      · exact Or.inr (Changed.dropping asleep unwanted)
      · exact Or.inl old
  | continuing answered waiting taken =>
      rcases setProgress_call_cases waiting here with ⟨rfl, rfl⟩ | ⟨_, old⟩
      · exact Or.inr (Changed.continuing answered waiting taken)
      · exact Or.inl old

theorem Turn.origin {desk next : Desk} {action : Action}
    (turn : Turn desk action next) {call : Nat} {entry : Call}
    (here : next.calls[call]? = some entry) :
    ∃ progress,
      desk.calls[call]? = some { entry with progress := progress } := by
  rcases turn.call_cases here with old | changed
  · exact ⟨entry.progress, old⟩
  · cases changed with
    | opening asleep => exact ⟨_, asleep⟩
    | dropping asleep unwanted => exact ⟨_, asleep⟩
    | continuing answered waiting taken => exact ⟨_, waiting⟩

/-! ## What becomes of a call -/

/-- A call keeps its text and its token, and when it has ended, its answer. -/
def Carries (desk : Desk) (call : Nat) (entry : Call) : Prop :=
  ∃ progress,
    desk.calls[call]? = some { entry with progress := progress } ∧
      ∀ answer, entry.progress = Progress.ended answer →
        progress = Progress.ended answer

theorem carries_of_call {desk : Desk} {call : Nat} {entry : Call}
    (here : desk.calls[call]? = some entry) : desk.Carries call entry :=
  ⟨entry.progress, here, fun _ ended => ended⟩

theorem carries_setProgress {desk : Desk} {call turned : Nat}
    {entry turning : Call} (here : desk.calls[call]? = some entry)
    (there : desk.calls[turned]? = some turning)
    (open' : ∀ answer, turning.progress ≠ Progress.ended answer)
    (processor : Processor) (progress : Progress) :
    ({ desk with processor := processor }.setProgress turned
      progress).Carries call entry := by
  rw [Carries]
  simp only [getElem?_setProgress]
  by_cases same : turned = call
  · subst turned
    obtain rfl := Option.some.inj (there.symm.trans here)
    refine ⟨progress, ?_, fun answer ended => absurd ended (open' answer)⟩
    rw [if_pos rfl, here]
    rfl
  · refine ⟨entry.progress, ?_, fun answer ended => ended⟩
    rw [if_neg same, here]

theorem Turn.carries {desk next : Desk} {action : Action}
    (turn : Turn desk action next) {call : Nat} {entry : Call}
    (here : desk.calls[call]? = some entry) : next.Carries call entry := by
  cases turn with
  | rest => exact carries_of_call here
  | opening asleep =>
      exact carries_setProgress here asleep (fun _ ended => by cases ended) _ _
  | dropping asleep unwanted =>
      exact carries_setProgress here asleep (fun _ ended => by cases ended)
        desk.processor _
  | continuing answered waiting taken =>
      exact carries_setProgress here waiting (fun _ ended => by cases ended) _ _

theorem step_carries {desk : Desk} {call : Nat} {entry : Call}
    (here : desk.calls[call]? = some entry) (action : Action) :
    (desk.step action).1.Carries call entry :=
  (turn_step desk action).carries (received_of_call here action)

theorem run_carries {desk : Desk} {call : Nat} {entry : Call}
    (here : desk.calls[call]? = some entry) (actions : List Action) :
    (desk.run actions).1.Carries call entry := by
  induction actions generalizing desk entry with
  | nil => exact carries_of_call here
  | cons action actions inductionHypothesis =>
      obtain ⟨progress, later, kept⟩ := step_carries here action
      obtain ⟨last, latest, keptLast⟩ := inductionHypothesis later
      exact ⟨last, latest, fun answer ended =>
        keptLast answer (kept answer ended)⟩

theorem answer?_eq_some_iff (desk : Desk) (call : Nat)
    (answer : Option Conversion) :
    desk.answer? call = some answer ↔
      ∃ entry, desk.calls[call]? = some entry ∧
        entry.progress = Progress.ended answer := by
  rw [answer?]
  constructor
  · intro given
    split at given
    · rename_i text token result here
      cases given
      exact ⟨_, here, rfl⟩
    · cases given
  · rintro ⟨⟨text, token, progress⟩, here, ended⟩
    subst ended
    rw [here]

theorem answer?_run {desk : Desk} {call : Nat} {answer : Option Conversion}
    (given : desk.answer? call = some answer) (actions : List Action) :
    (desk.run actions).1.answer? call = some answer := by
  obtain ⟨entry, here, ended⟩ := (answer?_eq_some_iff desk call answer).mp given
  obtain ⟨progress, later, kept⟩ := run_carries here actions
  exact (answer?_eq_some_iff _ call answer).mpr
    ⟨_, later, kept answer ended⟩

theorem answer?_append {settings : Settings} {actions : List Action}
    {call : Nat} {answer : Option Conversion}
    (given : (after settings actions).answer? call = some answer)
    (more : List Action) :
    (after settings (actions ++ more)).answer? call = some answer := by
  rw [after_append]
  exact answer?_run given more

/-! ## What a call asks -/

theorem extracting_of_pending? {desk : Desk} {call : Nat} {request : Request}
    (pending : desk.pending? call = some request) :
    ∃ text token job extraction,
      desk.calls[call]? =
          some ⟨text, token, Progress.extracting job extraction⟩ ∧
        extraction.request? = some request := by
  rw [pending?] at pending
  split at pending
  · rename_i text token job extraction waiting
    exact ⟨text, token, job, extraction, waiting, pending⟩
  · cases pending

theorem pending?_of_extracting {desk : Desk} {call : Nat} {text : String}
    {token : Option Token} {job : Job} {extraction : Extraction}
    (waiting :
      desk.calls[call]? =
        some ⟨text, token, Progress.extracting job extraction⟩) :
    desk.pending? call = extraction.request? := by
  rw [pending?, waiting]

/-- A reply that is taken moves the call on to where its extraction goes. -/
theorem calls_step_of_taken {desk : Desk} {call : Nat} {text : String}
    {token : Option Token} {job : Job} {extraction later : Extraction}
    {reply : Reply}
    (waiting :
      desk.calls[call]? =
        some ⟨text, token, Progress.extracting job extraction⟩)
    (taken : extraction.take? reply = some later) :
    (desk.step (Action.reply call reply)).1.calls[call]? =
      some ⟨text, token, desk.continued token job later⟩ := by
  simp only [step, waiting, taken, continueWith_eq, getElem?_setProgress,
    if_true, Option.map_some]

end UtilityCss.Desk

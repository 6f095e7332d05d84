import UtilityCss.Proofs.Desk.Run

/-!
# Desks with a resolver

A resolver may serve the calls of a desk in any order, one request at a time,
while other actions go on.  When nothing comes between, a conversion at such a
desk ends after three replies at the latest, with the result of a conversion
from beginning to end.
-/

namespace UtilityCss

/-- A desk with the state of the resolver that serves it. -/
structure Service (σ : Type) where
  desk : Desk
  state : σ

/-- What can happen at a desk with a resolver. -/
inductive ServiceStep where
  /-- An action from outside; replies do not come from there. -/
  | act (action : Action)
  /-- The resolver replies to what a call asks. -/
  | serve (call : Nat)

theorem Extraction.take?_reply {σ : Type} (resolver : Resolver σ) (state : σ)
    {extraction : Extraction} {request : Request}
    (asks : extraction.request? = some request) :
    extraction.take? (resolver.reply state request).1 =
      some (resolver.advance extraction state).1 := by
  cases extraction with
  | creating classes =>
      cases asks
      rcases created : resolver.create state classes with
        ⟨fault | context, next⟩
      · simp [Resolver.advance, Extraction.request?, Resolver.reply, created,
          Extraction.take?]
      · simp [Resolver.advance, Extraction.request?, Resolver.reply, created,
          Extraction.take?]
  | computing context =>
      cases asks
      rfl
  | destroying context outcome =>
      cases asks
      rfl
  | ended outcome => cases asks

/-- Where a call without a token stands when its extraction has come so far. -/
def Job.standing (job : Job) : Extraction → Progress
  | Extraction.ended outcome =>
      Progress.ended (some (Processor.closingResult job outcome).1)
  | waiting => Progress.extracting job waiting

theorem Desk.continued_none (desk : Desk) (job : Job)
    (extraction : Extraction) :
    desk.continued none job extraction = job.standing extraction := by
  cases extraction with
  | ended outcome => rfl
  | _ => rfl

theorem Desk.calls_convert (desk : Desk) (text : String) :
    (desk.step (Action.convert text none)).1.calls[desk.calls.length]? =
      some ⟨text, none, desk.opened text none⟩ := by
  have asleep :
      (desk.addCall text none).calls[desk.calls.length]? =
        some ⟨text, none, Progress.asleep⟩ := by
    rw [addCall, List.getElem?_concat_length]
  rw [step, start_eq, getElem?_setProgress, if_pos rfl, asleep]
  rfl

namespace Service

variable {σ : Type}

def create (settings : Settings) (state : σ) : Service σ :=
  ⟨Desk.create settings, state⟩

def act (service : Service σ) (action : Action) : Service σ :=
  match action with
  | Action.reply _ _ => service
  | action => { service with desk := (service.desk.step action).1 }

def serve (resolver : Resolver σ) (service : Service σ) (call : Nat) :
    Service σ :=
  match service.desk.pending? call with
  | none => service
  | some request =>
      let (reply, next) := resolver.reply service.state request
      ⟨(service.desk.step (Action.reply call reply)).1, next⟩

def step (resolver : Resolver σ) (service : Service σ) :
    ServiceStep → Service σ
  | ServiceStep.act action => service.act action
  | ServiceStep.serve call => service.serve resolver call

def run (resolver : Resolver σ) (service : Service σ)
    (steps : List ServiceStep) : Service σ :=
  steps.foldl (step resolver) service

/-- A conversion without a token that nothing comes between. -/
def conversion (text : String) (call : Nat) : List ServiceStep :=
  ServiceStep.act (Action.convert text none) ::
    List.replicate 3 (ServiceStep.serve call)

theorem run_cons (resolver : Resolver σ) (service : Service σ)
    (step : ServiceStep) (steps : List ServiceStep) :
    service.run resolver (step :: steps) =
      (service.step resolver step).run resolver steps :=
  rfl

/-- The result of converting a text next. -/
def result? (resolver : Resolver σ) (service : Service σ) (text : String) :
    Option Conversion :=
  let call := service.desk.calls.length
  ((service.run resolver (conversion text call)).desk.answer? call).join

/-! ## Serving a call -/

section Serving

variable (resolver : Resolver σ) {service : Service σ} {call : Nat}
variable {text : String} {token : Option Token} {job : Job}
variable {extraction : Extraction}

theorem serve_of_request {request : Request}
    (waiting :
      service.desk.calls[call]? =
        some ⟨text, token, Progress.extracting job extraction⟩)
    (asks : extraction.request? = some request) :
    service.serve resolver call =
      ⟨{ service.desk with
          processor :=
            service.desk.closed token job
              (resolver.advance extraction service.state).1 }.setProgress call
          (service.desk.continued token job
            (resolver.advance extraction service.state).1),
        (resolver.advance extraction service.state).2⟩ := by
  have pending : service.desk.pending? call = some request := by
    rw [Desk.pending?, waiting, ← asks]
  have taken := Extraction.take?_reply resolver service.state asks
  have stepped :
      service.desk.step
          (Action.reply call (resolver.reply service.state request).1) =
        service.desk.continueWith call token job
          (resolver.advance extraction service.state).1 := by
    simp only [Desk.step, waiting, taken]
  have next :
      (resolver.reply service.state request).2 =
        (resolver.advance extraction service.state).2 := by
    rw [Resolver.advance, asks]
  rw [serve, pending]
  simp only [stepped, next, Desk.continueWith_eq]

theorem serve_of_pending? {request : Request}
    (pending : service.desk.pending? call = some request) :
    service.serve resolver call =
      ⟨(service.desk.step
          (Action.reply call (resolver.reply service.state request).1)).1,
        (resolver.reply service.state request).2⟩ := by
  rw [serve, pending]

theorem serve_of_answer {answer : Option Conversion}
    (given : service.desk.answer? call = some answer) :
    service.serve resolver call = service := by
  obtain ⟨⟨text, token, progress⟩, here, ended⟩ :=
    (Desk.answer?_eq_some_iff _ _ _).mp given
  have idle : service.desk.pending? call = none := by
    subst ended
    rw [Desk.pending?, here]
  rw [serve, idle]

/-- A call that is served goes on as its extraction does. -/
theorem calls_serve
    (here :
      service.desk.calls[call]? = some ⟨text, none, job.standing extraction⟩) :
    (service.serve resolver call).desk.calls[call]? =
        some ⟨text, none,
          job.standing (resolver.advance extraction service.state).1⟩ ∧
      (service.serve resolver call).state =
        (resolver.advance extraction service.state).2 := by
  cases asks : extraction.request? with
  | none =>
      cases extraction with
      | ended outcome =>
          have given :=
            (Desk.answer?_eq_some_iff _ _ _).mpr ⟨_, here, rfl⟩
          rw [serve_of_answer resolver given]
          exact ⟨here, rfl⟩
      | _ => cases asks
  | some request =>
      have waiting :
          service.desk.calls[call]? =
            some ⟨text, none, Progress.extracting job extraction⟩ := by
        cases extraction with
        | ended outcome => cases asks
        | _ => exact here
      rw [serve_of_request resolver waiting asks]
      refine ⟨?_, rfl⟩
      rw [Desk.getElem?_setProgress, if_pos rfl, waiting, Desk.continued_none]
      rfl

theorem calls_run_serve (count : Nat)
    (here :
      service.desk.calls[call]? = some ⟨text, none, job.standing extraction⟩) :
    (service.run resolver
        (List.replicate count (ServiceStep.serve call))).desk.calls[call]? =
      some ⟨text, none,
        job.standing
          (resolver.advanceTimes count extraction service.state).1⟩ := by
  induction count generalizing service extraction with
  | zero => exact here
  | succ count inductionHypothesis =>
      obtain ⟨once, state⟩ := calls_serve resolver here
      have others := inductionHypothesis once
      rw [state] at others
      exact others

theorem run_serve_of_answer {answer : Option Conversion}
    (given : service.desk.answer? call = some answer) (count : Nat) :
    service.run resolver (List.replicate count (ServiceStep.serve call)) =
      service := by
  induction count with
  | zero => rfl
  | succ count inductionHypothesis =>
      rw [List.replicate_succ, run_cons, step, serve_of_answer resolver given,
        inductionHypothesis]

end Serving

/-- A conversion that nothing comes between ends, and its result is that of a
conversion from beginning to end. -/
theorem result?_eq (resolver : Resolver σ) (service : Service σ)
    (text : String) :
    service.result? resolver text =
      some (service.desk.processor.convert resolver service.state text).1 := by
  have called :
      (service.act (Action.convert text none)).desk.calls[
          service.desk.calls.length]? =
        some ⟨text, none, service.desk.opened text none⟩ :=
    service.desk.calls_convert text
  rw [result?, conversion, run_cons, step, Processor.convert]
  rcases opening : service.desk.processor.opening text with
    ⟨result | job, phases, next⟩
  · have opened :
        service.desk.opened text none = Progress.ended (some result) := by
      rw [Desk.opened, opening]
      rfl
    rw [opened] at called
    have given := (Desk.answer?_eq_some_iff _ _ _).mpr ⟨_, called, rfl⟩
    rw [run_serve_of_answer resolver given, given]
    rfl
  · have opened :
        service.desk.opened text none =
          job.standing (Extraction.creating job.classes) := by
      rw [Desk.opened, opening]
      rfl
    rw [opened] at called
    have served := calls_run_serve resolver 3 called
    rw [resolver.advanceTimes_three] at served
    rw [(Desk.answer?_eq_some_iff _ _ _).mpr ⟨_, served, rfl⟩]
    rfl

end Service

end UtilityCss

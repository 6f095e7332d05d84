import UtilityCss.Desk
import UtilityCss.Resolver.Scripted
import UtilityCss.Resolver.Static

/-!
# Sessions at a desk

A session drives one desk with one dispatcher and one resolver, step by step.
Between steps every conversion has gone on as far as its resolver lets it; only
submissions that sleep and conversions behind a gate are left open.
-/

namespace UtilityCss

/-- The resolver behind a session. -/
inductive Backend where
  | table (resolver : TableResolver)
  | scripted (resolver : ScriptedResolver)
deriving Repr

namespace Backend

def note (backend : Backend) (request : Request) : Backend :=
  match backend with
  | table resolver => table resolver
  | scripted resolver => scripted (resolver.note request)

def holds (backend : Backend) (request : Request) : Bool :=
  match backend with
  | table _ => false
  | scripted resolver => resolver.holds request

/-- The reply to a request that was taken notice of. -/
def answer (backend : Backend) (request : Request) : Reply × Backend :=
  match backend with
  | table resolver =>
      Prod.map id table (TableResolver.interface.reply resolver request)
  | scripted resolver =>
      Prod.map id scripted (ScriptedResolver.interface.reply resolver request)

def updateScript (backend : Backend) (change : ScriptedResolver → ScriptedResolver) :
    Backend :=
  match backend with
  | table resolver => table resolver
  | scripted resolver => scripted (change resolver)

def close (backend : Backend) : Backend :=
  backend.updateScript fun resolver => { resolver with closed := true }

end Backend

/-- The resolver behind a session as extractions use it, gates aside. -/
def Backend.interface : Resolver Backend where
  create backend classes :=
    match backend with
    | table resolver =>
        Prod.map id table (TableResolver.interface.create resolver classes)
    | scripted resolver =>
        Prod.map id scripted (ScriptedResolver.interface.create resolver classes)
  compute backend context :=
    match backend.note (Request.compute context) with
    | table resolver => (resolver.compute context, table resolver)
    | scripted resolver => (resolver.compute context, scripted resolver)
  destroy backend context :=
    match backend with
    | table resolver =>
        Prod.map id table (TableResolver.interface.destroy resolver context)
    | scripted resolver =>
        Prod.map id scripted (ScriptedResolver.interface.destroy resolver context)

/-- A desk with its resolver, and the names under which tokens and calls are
known to whoever gives the steps. -/
structure Session where
  desk : Desk
  backend : Backend
  delayed : Bool
  tokens : OrderedMap Atom Token
  tasks : OrderedMap Atom Nat
  /-- Results of calls that were changed by whoever received them. -/
  altered : List (Nat × Conversion)
  /-- The call whose result was given out last. -/
  given : Option Nat

/-- The steps of a session. -/
inductive SessionStep where
  | convert (text : String) (token : Option Atom)
  | submit (text : String)
  | issue (name : Atom)
  | cancel
  | token (name : Atom)
  | gate (classes : String)
  | start (name : Atom) (text : String)
  | release (classes : String)
  | await (name : Atom)
  | fault (stage : Stage) (fault : Option Fault)
  | styles (styles : StyleValues)
  | alter
  | reset
  | keys
  | look
  | close
deriving Repr

/-- What a step shows besides the state of the desk. -/
inductive SessionAnswer where
  | nothing
  | result (answer : Option Conversion)
  | started (done : Bool)
  | token (token : Token) (current : Bool)
  | keys (keys : List String)

namespace Session

def create (settings : Settings) (backend : Backend) (debounceMilliseconds : Int) :
    Session where
  desk := Desk.create settings
  backend := backend
  delayed := decide (0 < debounceMilliseconds)
  tokens := OrderedMap.empty
  tasks := OrderedMap.empty
  altered := []
  given := none

/-- The dispatcher of the session. -/
def dispatcher : Nat := 0

def noteRequest (backend : Backend) : Note → Backend
  | Note.asked _ request => backend.note request
  | _ => backend

/-- One action at the desk; the resolver takes notice of what is asked. -/
def act (session : Session) (action : Action) : Session × List Note :=
  let (desk, notes) := session.desk.step action
  ({ session with desk := desk, backend := notes.foldl noteRequest session.backend }, notes)

/-- Lets the resolver reply to a call, at most so many times, until it ends or
is held back. -/
def proceed (session : Session) (call : Nat) : Nat → Session × List Note
  | 0 => (session, [])
  | count + 1 =>
      match session.desk.pending? call with
      | none => (session, [])
      | some request =>
          if session.backend.holds request then (session, [])
          else
            let (reply, backend) := session.backend.answer request
            let (next, notes) :=
              { session with backend := backend }.act (Action.reply call reply)
            let (last, others) := next.proceed call count
            (last, notes ++ others)

/-- An action that concerns a call, and whatever the call does by itself
afterwards. -/
def actAndProceed (session : Session) (action : Action) (call : Nat) :
    Session × List Note :=
  let (acted, notes) := session.act action
  let (next, others) := acted.proceed call 3
  (next, notes ++ others)

/-- The same for several calls, one after another. -/
def proceedAll : Session → List Nat → Session × List Note
  | session, [] => (session, [])
  | session, call :: calls =>
      let (next, notes) := session.proceed call 3
      let (last, others) := next.proceedAll calls
      (last, notes ++ others)

/-- Wakes the calls that sleep, in the order in which they came in, each going
on as far as it can. -/
def wakeAll : Session → List Nat → Session × List Note
  | session, [] => (session, [])
  | session, call :: calls =>
      let (next, notes) := session.actAndProceed (Action.wake call) call
      let (last, others) := next.wakeAll calls
      (last, notes ++ others)

def isAsleep (session : Session) (call : Nat) : Bool :=
  match session.desk.calls[call]? with
  | some ⟨_, _, Progress.asleep⟩ => true
  | _ => false

/-- The calls up to a given one that sleep. -/
def sleepers (session : Session) (upTo : Nat) : List Nat :=
  (List.range (upTo + 1)).filter session.isAsleep

/-- The result of a call as its receiver has left it. -/
def answerOf (session : Session) (call : Nat) : Option Conversion :=
  match session.altered.find? fun entry => entry.1 == call with
  | some (_, result) => some result
  | none => (session.desk.answer? call).join

/-- Gives out the result of a call. -/
def give (session : Session) (call : Nat) : SessionAnswer × Session :=
  (SessionAnswer.result (session.answerOf call), { session with given := some call })

/-- The receiver of the last result writes into it. -/
def alterGiven (session : Session) : Session :=
  match session.given with
  | none => session
  | some call =>
      match session.answerOf call with
      | none => session
      | some result =>
          let changed : Conversion :=
            { result with
              css := "changed", warnings := result.warnings.map (· ++ ["mutated"]) }
          { session with altered := (call, changed) :: session.altered }

/-- The phases among the notes. -/
def phasesOf (notes : List Note) : List Phase :=
  notes.filterMap fun note =>
    match note with
    | Note.entered _ phase => some phase
    | _ => none

/-- Submits a text and waits for its end; a submission that sleeps ends its
sleep after all that were sleeping before it. -/
def submitAndWait (session : Session) (text : String) : Session × List Note :=
  let call := session.desk.calls.length
  let (submitted, notes) :=
    session.actAndProceed (Action.submit dispatcher text session.delayed) call
  let (woken, others) := submitted.wakeAll (submitted.sleepers call)
  (woken, notes ++ others)

/-- The calls that are held back at a gate. -/
def heldAt (session : Session) (classes : String) : List Nat :=
  (List.range session.desk.calls.length).filter fun call =>
    match session.desk.pending? call with
    | some (Request.compute context) => context.classes == classes
    | _ => false

/-- One step of a session: what it shows, the phases entered meanwhile, and the
session afterwards. -/
def step (session : Session) : SessionStep → SessionAnswer × List Phase × Session
  | SessionStep.convert text name =>
      let call := session.desk.calls.length
      let token := name.bind session.tokens.find?
      let (next, notes) := session.actAndProceed (Action.convert text token) call
      let (answer, last) := next.give call
      (answer, phasesOf notes, last)
  | SessionStep.submit text =>
      let call := session.desk.calls.length
      let (next, notes) := session.submitAndWait text
      let (answer, last) := next.give call
      (answer, phasesOf notes, last)
  | SessionStep.issue name =>
      let (next, _) := session.act (Action.issue dispatcher)
      (SessionAnswer.nothing, [],
        { next with tokens := next.tokens.insert name (next.desk.latest dispatcher) })
  | SessionStep.cancel =>
      (SessionAnswer.nothing, [], (session.act (Action.cancel dispatcher)).1)
  | SessionStep.token name =>
      match session.tokens.find? name with
      | some token =>
          (SessionAnswer.token token (session.desk.isCurrent token), [], session)
      | none => (SessionAnswer.nothing, [], session)
  | SessionStep.gate classes =>
      (SessionAnswer.nothing, [],
        { session with
          backend := session.backend.updateScript fun resolver =>
            { resolver with gates := resolver.gates ++ [classes] } })
  | SessionStep.start name text =>
      let call := session.desk.calls.length
      let (next, notes) :=
        session.actAndProceed (Action.submit dispatcher text session.delayed) call
      (SessionAnswer.started (next.desk.answer? call).isSome, phasesOf notes,
        { next with tasks := next.tasks.insert name call })
  | SessionStep.release classes =>
      let opened :=
        { session with
          backend := session.backend.updateScript fun resolver =>
            { resolver with gates := resolver.gates.filter fun gate => gate != classes } }
      let (next, notes) := opened.proceedAll (opened.heldAt classes)
      (SessionAnswer.nothing, phasesOf notes, next)
  | SessionStep.await name =>
      match session.tasks.find? name with
      | some call =>
          let (woken, notes) := session.wakeAll (session.sleepers call)
          let (answer, last) := woken.give call
          (answer, phasesOf notes, last)
      | none => (SessionAnswer.nothing, [], session)
  | SessionStep.fault stage fault =>
      (SessionAnswer.nothing, [],
        { session with
          backend := session.backend.updateScript fun resolver =>
            resolver.setFault stage fault })
  | SessionStep.styles styles =>
      (SessionAnswer.nothing, [],
        { session with
          backend := session.backend.updateScript fun resolver =>
            { resolver with styles := styles } })
  | SessionStep.alter => (SessionAnswer.nothing, [], session.alterGiven)
  | SessionStep.reset => (SessionAnswer.nothing, [], (session.act Action.reset).1)
  | SessionStep.keys =>
      (SessionAnswer.keys session.desk.processor.cache.keys, [], session)
  | SessionStep.look => (SessionAnswer.nothing, [], session)
  | SessionStep.close =>
      (SessionAnswer.nothing, [], { session with backend := session.backend.close })

end Session

end UtilityCss

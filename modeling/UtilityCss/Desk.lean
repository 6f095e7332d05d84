import UtilityCss.Conversion

/-!
# A desk of overlapping conversions

Many conversions share one processor.  Dispatchers hand out tokens, and a token
is current until its dispatcher hands out another or cancels; a conversion
whose token is not current any more gives nothing.  A submission may sleep
before it starts, and every conversion may wait for its resolver, so a desk is
kept as data that takes one action at a time: a list of actions is an order in
which sleeping and waiting conversions go on.
-/

namespace UtilityCss

/-- A mark of a dispatcher for one conversion. -/
structure Token where
  dispatcher : Nat
  generation : Nat
deriving DecidableEq, Repr

/-- How a token shows itself. -/
def Token.text (token : Token) (current : Bool) : String :=
  "ConversionToken(generation=" ++ toString token.generation ++ ", current=" ++
    (if current then "True" else "False") ++ ")"

/-- Where one call stands. -/
inductive Progress where
  /-- A submission that waits for further input. -/
  | asleep
  | extracting (job : Job) (extraction : Extraction)
  | ended (answer : Option Conversion)

structure Call where
  text : String
  token : Option Token
  progress : Progress

/-- What can happen at a desk.  Calls are numbered in the order in which they
come in. -/
inductive Action where
  | issue (dispatcher : Nat)
  | cancel (dispatcher : Nat)
  | convert (text : String) (token : Option Token)
  | submit (dispatcher : Nat) (text : String) (delayed : Bool)
  | wake (call : Nat)
  | reply (call : Nat) (reply : Reply)
  | reset

/-- What a call shows of itself. -/
inductive Note where
  | entered (call : Nat) (phase : Phase)
  | asked (call : Nat) (request : Request)
  | ended (call : Nat) (answer : Option Conversion)

/-- A processor, the generations of its dispatchers, and the calls so far. -/
structure Desk where
  processor : Processor
  generations : Nat → Nat
  calls : List Call

namespace Desk

def create (settings : Settings) : Desk where
  processor := Processor.create settings
  generations := fun _ => 0
  calls := []

def isCurrent (desk : Desk) (token : Token) : Bool :=
  desk.generations token.dispatcher == token.generation

/-- A call is wanted while its token is current, and always without a token. -/
def wants (desk : Desk) : Option Token → Bool
  | none => true
  | some token => desk.isCurrent token

/-- The desk after its dispatcher has moved on by one generation. -/
def advance (desk : Desk) (dispatcher : Nat) : Desk :=
  { desk with
    generations := fun other =>
      if other = dispatcher then desk.generations other + 1 else desk.generations other }

/-- The token that a dispatcher has handed out last. -/
def latest (desk : Desk) (dispatcher : Nat) : Token :=
  ⟨dispatcher, desk.generations dispatcher⟩

def setProgress (desk : Desk) (call : Nat) (progress : Progress) : Desk :=
  { desk with
    calls := desk.calls.modify call fun entry => { entry with progress := progress } }

def addCall (desk : Desk) (text : String) (token : Option Token) : Desk :=
  { desk with calls := desk.calls ++ [⟨text, token, Progress.asleep⟩] }

def notesOf (call : Nat) (phases : List Phase) : List Note :=
  phases.map (Note.entered call)

/-- Starts the conversion of a call: it ends at once, or asks its resolver. -/
def start (desk : Desk) (call : Nat) (text : String) (token : Option Token) :
    Desk × List Note :=
  match desk.processor.opening text with
  | (Opening.settled result, phases, processor) =>
      let answer := Processor.commit (desk.wants token) result
      ({ desk with processor := processor }.setProgress call (Progress.ended answer),
        notesOf call phases ++ [Note.ended call answer])
  | (Opening.unresolved job, phases, processor) =>
      ({ desk with processor := processor }.setProgress call
          (Progress.extracting job (Extraction.creating job.classes)),
        notesOf call phases ++ [Note.asked call (Request.create job.classes)])

/-- Goes on with a call after a reply. -/
def continueWith (desk : Desk) (call : Nat) (token : Option Token) (job : Job)
    (extraction : Extraction) : Desk × List Note :=
  match extraction with
  | Extraction.ended outcome =>
      let wanted := desk.wants token
      let (result, phases, processor) := desk.processor.closing job outcome wanted
      let answer := Processor.commit wanted result
      ({ desk with processor := processor }.setProgress call (Progress.ended answer),
        notesOf call phases ++ [Note.ended call answer])
  | waiting =>
      (desk.setProgress call (Progress.extracting job waiting),
        (waiting.request?.map (Note.asked call)).toList)

/-- Wakes a submission.  If its token is not current any more it ends without
having touched the processor. -/
def wake (desk : Desk) (call : Nat) : Desk × List Note :=
  match desk.calls[call]? with
  | some ⟨text, token, Progress.asleep⟩ =>
      if desk.wants token then desk.start call text token
      else (desk.setProgress call (Progress.ended none), [Note.ended call none])
  | _ => (desk, [])

/-- One action with what it shows.  A reply that a call does not wait for is
ignored, as is waking a call that is not asleep. -/
def step (desk : Desk) : Action → Desk × List Note
  | Action.issue dispatcher => (desk.advance dispatcher, [])
  | Action.cancel dispatcher => (desk.advance dispatcher, [])
  | Action.reset => ({ desk with processor := desk.processor.reset }, [])
  | Action.convert text token =>
      (desk.addCall text token).start desk.calls.length text token
  | Action.submit dispatcher text delayed =>
      let issued := desk.advance dispatcher
      let token := some (issued.latest dispatcher)
      let received := issued.addCall text token
      if delayed then (received, [])
      else received.start desk.calls.length text token
  | Action.wake call => desk.wake call
  | Action.reply call reply =>
      match desk.calls[call]? with
      | some ⟨_, token, Progress.extracting job extraction⟩ =>
          match extraction.take? reply with
          | some later => desk.continueWith call token job later
          | none => (desk, [])
      | _ => (desk, [])

/-- The actions one after another, with all they show. -/
def run : Desk → List Action → Desk × List Note
  | desk, [] => (desk, [])
  | desk, action :: actions =>
      let (next, notes) := desk.step action
      let (last, others) := next.run actions
      (last, notes ++ others)

/-- What a call is asking of its resolver. -/
def pending? (desk : Desk) (call : Nat) : Option Request :=
  match desk.calls[call]? with
  | some ⟨_, _, Progress.extracting _ extraction⟩ => extraction.request?
  | _ => none

/-- How a call has ended, if it has. -/
def answer? (desk : Desk) (call : Nat) : Option (Option Conversion) :=
  match desk.calls[call]? with
  | some ⟨_, _, Progress.ended answer⟩ => some answer
  | _ => none

end Desk

end UtilityCss

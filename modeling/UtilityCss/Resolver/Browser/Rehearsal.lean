import UtilityCss.Desk
import UtilityCss.Resolver.Browser
import UtilityCss.Resolver.Browser.Script

/-!
# Rehearsals of the browser resolver

A rehearsal drives a browser resolver with a scripted engine, step by step:
directly, or through the conversions of a desk.  It takes down every call to
the engine in order.
-/

namespace UtilityCss.Browser

structure Rehearsal where
  resolver : BrowserResolver
  script : EngineScript
  desk : Desk
  /-- The contexts by the names under which the steps know them. -/
  contexts : OrderedMap Atom StylingContext
  /-- The number of the next dispatcher. -/
  dispatcher : Nat
  /-- The calls so far, the latest first. -/
  calls : List Call

/-- The steps of a rehearsal. -/
inductive RehearsalStep where
  | create (name : Atom) (classes : String)
  | foreign (name : Atom) (classes : String)
  | compute (name : Atom)
  | destroy (name : Atom)
  | convert (text : String)
  /-- Submits the second text, and the first one while the second is waiting
  for the engine to start. -/
  | overlap (first second : String)
  | look
  | close
deriving Repr

/-- What a step shows. -/
inductive RehearsalAnswer where
  | nothing
  | created (outcome : Except Fault StylingContext)
  | computed (outcome : Except Fault StyleValues)
  | destroyed (context : StylingContext) (outcome : Except Fault Unit)
  | closed (outcome : Except Fault Unit)
  | converted (answers : List (Option Conversion))

namespace Rehearsal

def create (options : Options) (script : EngineScript) : Rehearsal where
  resolver := BrowserResolver.create options
  script := script
  desk := Desk.create Settings.usual
  contexts := OrderedMap.empty
  dispatcher := 0
  calls := []

/-- Answers the next call of an errand, if it makes one. -/
def answerOnce (rehearsal : Rehearsal) (errand : Nat) : Rehearsal :=
  match rehearsal.resolver.call? errand with
  | none => rehearsal
  | some call =>
      let (response, script) := rehearsal.script.answer call
      { rehearsal with
        resolver := rehearsal.resolver.answer errand response
        script := script
        calls := call :: rehearsal.calls }

/-- More calls than any errand makes. -/
def manyCalls : Nat := 20

/-- Answers the calls of an errand until it makes no more. -/
def finish (rehearsal : Rehearsal) (errand : Nat) : Rehearsal :=
  (List.range manyCalls).foldl (fun current _ => current.answerOnce errand) rehearsal

/-- Begins an errand, whose number is given as well. -/
def begin (rehearsal : Rehearsal) (event : BrowserResolver.Event) : Nat × Rehearsal :=
  (rehearsal.resolver.errands.length,
    { rehearsal with resolver := rehearsal.resolver.step event })

/-- An errand from beginning to end. -/
def perform (rehearsal : Rehearsal) (event : BrowserResolver.Event) :
    Option Errand × Rehearsal :=
  let (number, begun) := rehearsal.begin event
  let finished := begun.finish number
  (finished.resolver.errands[number]?, finished)

/-- Hands the reply of an errand to the conversion that asked for it. -/
def handOver (rehearsal : Rehearsal) (conversion errand : Nat) : Rehearsal :=
  match rehearsal.resolver.reply? errand with
  | some reply =>
      { rehearsal with desk := (rehearsal.desk.step (Action.reply conversion reply)).1 }
  | none => rehearsal

/-- Serves what a conversion asks of its resolver. -/
def serve (rehearsal : Rehearsal) (conversion : Nat) : Rehearsal :=
  match rehearsal.desk.pending? conversion with
  | none => rehearsal
  | some request =>
      let (number, begun) := rehearsal.begin (BrowserResolver.eventOf request)
      (begun.finish number).handOver conversion number

/-- Serves a conversion to its end. -/
def serveAll (rehearsal : Rehearsal) (conversion : Nat) : Rehearsal :=
  ((rehearsal.serve conversion).serve conversion).serve conversion

def act (rehearsal : Rehearsal) (action : Action) : Rehearsal :=
  { rehearsal with desk := (rehearsal.desk.step action).1 }

def answerOf (rehearsal : Rehearsal) (conversion : Nat) : Option Conversion :=
  (rehearsal.desk.answer? conversion).join

/-- The errand of a conversion that waits for the engine to start, if it
does. -/
def startingErrand? (rehearsal : Rehearsal) (conversion : Nat) : Option Request :=
  match rehearsal.desk.pending? conversion with
  | some (Request.create classes) =>
      if rehearsal.resolver.isStarted then none else some (Request.create classes)
  | _ => none

/-- Two submissions to one dispatcher.  The second text comes first; if it has
to wait for the engine to start, the first one comes in meanwhile, and goes on
when the second has come to its end. -/
def overlap (rehearsal : Rehearsal) (first second : String) : Rehearsal :=
  let dispatcher := rehearsal.dispatcher
  let earlier := rehearsal.desk.calls.length
  let later := earlier + 1
  let submitted :=
    { rehearsal with dispatcher := dispatcher + 1 }.act
      (Action.submit dispatcher second false)
  match submitted.startingErrand? earlier with
  | none =>
      (submitted.serveAll earlier).act (Action.submit dispatcher first false)
        |>.serveAll later
  | some request =>
      let (earlierErrand, begun) := submitted.begin (BrowserResolver.eventOf request)
      let both := begun.act (Action.submit dispatcher first false)
      let waiting := both.desk.pending? later
      let (laterErrand, inLine) :=
        match waiting with
        | some request => both.begin (BrowserResolver.eventOf request)
        | none => (0, both)
      let ended :=
        ((inLine.finish earlierErrand).handOver earlier earlierErrand).serveAll earlier
      match waiting with
      | none => ended
      | some _ =>
          let advanced := { ended with resolver := ended.resolver.advance }
          ((advanced.finish laterErrand).handOver later laterErrand).serveAll later

/-- One step: what it shows, and the rehearsal afterwards. -/
def step (rehearsal : Rehearsal) : RehearsalStep → RehearsalAnswer × Rehearsal
  | RehearsalStep.create name classes =>
      match rehearsal.perform (BrowserResolver.Event.create classes) with
      | (some (Errand.created (Except.ok context)), next) =>
          (RehearsalAnswer.created (Except.ok context),
            { next with contexts := next.contexts.insert name context })
      | (some (Errand.created outcome), next) => (RehearsalAnswer.created outcome, next)
      | (_, next) => (RehearsalAnswer.nothing, next)
  | RehearsalStep.foreign name classes =>
      (RehearsalAnswer.nothing,
        { rehearsal with
          contexts := rehearsal.contexts.insert name ⟨0, classes, Handle.missing⟩ })
  | RehearsalStep.compute name =>
      match rehearsal.contexts.find? name with
      | none => (RehearsalAnswer.nothing, rehearsal)
      | some context =>
          match rehearsal.perform (BrowserResolver.Event.compute context) with
          | (some (Errand.computed outcome), next) =>
              (RehearsalAnswer.computed outcome, next)
          | (_, next) => (RehearsalAnswer.nothing, next)
  | RehearsalStep.destroy name =>
      match rehearsal.contexts.find? name with
      | none => (RehearsalAnswer.nothing, rehearsal)
      | some context =>
          match rehearsal.perform (BrowserResolver.Event.destroy context) with
          | (some (Errand.destroyed left outcome), next) =>
              (RehearsalAnswer.destroyed left outcome,
                { next with contexts := next.contexts.insert name left })
          | (_, next) => (RehearsalAnswer.nothing, next)
  | RehearsalStep.convert text =>
      let conversion := rehearsal.desk.calls.length
      let next := (rehearsal.act (Action.convert text none)).serveAll conversion
      (RehearsalAnswer.converted [next.answerOf conversion], next)
  | RehearsalStep.overlap first second =>
      let earlier := rehearsal.desk.calls.length
      let next := rehearsal.overlap first second
      (RehearsalAnswer.converted [next.answerOf (earlier + 1), next.answerOf earlier], next)
  | RehearsalStep.look => (RehearsalAnswer.nothing, rehearsal)
  | RehearsalStep.close =>
      match rehearsal.perform BrowserResolver.Event.close with
      | (some (Errand.closing (Closing.finished outcome)), next) =>
          (RehearsalAnswer.closed outcome, next)
      | (_, next) => (RehearsalAnswer.nothing, next)

end Rehearsal

end UtilityCss.Browser

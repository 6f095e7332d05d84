import UtilityCss.Extraction
import UtilityCss.Resolver.Browser.Startup
import UtilityCss.StyleTable

/-!
# Errands of the browser resolver

Whatever the resolver is asked for is an errand: it makes calls to the engine
one after another until it has an outcome.  An errand that needs a page may
have to start the engine first, or to wait while another errand does.
-/

namespace UtilityCss.Browser

inductive Errand where
  /-- Waits for the startup of another errand. -/
  | queued (classes : String)
  | starting (classes : String) (startup : Startup)
  | attaching (classes : String) (page : Nat)
  /-- Gives up what was attached in place of an element. -/
  | discarding (handle : Nat)
  | created (outcome : Except Fault StylingContext)
  | computing (element : Nat)
  | computed (outcome : Except Fault StyleValues)
  | removing (context : StylingContext)
  /-- Gives up an element after taking it out of its page. -/
  | releasing (context : StylingContext) (outcome : Except Fault Unit)
  | destroyed (context : StylingContext) (outcome : Except Fault Unit)
  | closing (closing : Closing)

namespace Errand

/-- The hidden host of all elements in a page. -/
def host : String := "tw2css-host"

/-- The call whose answer the errand is waiting for. -/
def call? (options : Options) : Errand → Option Call
  | starting _ startup => startup.call? options
  | attaching classes page => some (Call.attach page host classes)
  | discarding handle => some (Call.dispose handle)
  | computing element => some (Call.compute element Property.relevant)
  | removing context => some (Call.remove context.serial)
  | releasing context _ => some (Call.dispose context.serial)
  | closing way => way.call?
  | _ => none

/-- The fault to pass on: an error of the engine is reported as trouble with
what was going on. -/
def passOn (trouble : Trouble) (activity : String) (fault : Fault) : Fault :=
  if isEngineFault fault then report trouble activity fault else fault

/-- The errand of computing styles; a context without an element has none. -/
def compute (context : StylingContext) : Errand :=
  match context.handle with
  | Handle.element => computing context.serial
  | _ =>
      computed (Except.error
        (Fault.foreign "AttributeError" "'NoneType' object has no attribute 'evaluate'"))

/-- The errand of ending a context; one without an element is ended. -/
def destroy (context : StylingContext) : Errand :=
  match context.handle with
  | Handle.element => removing context
  | _ => destroyed context (Except.ok ())

/-- How a startup goes on as part of an errand. -/
def afterStartup (classes : String) : Startup → Errand
  | Startup.finished (Except.ok page) => attaching classes page
  | Startup.finished (Except.error fault) => created (Except.error fault)
  | startup => starting classes startup

/-- The computed values as texts. -/
def valuesOf (entries : List (Atom × Value)) : Except Fault StyleValues :=
  match StyleTable.declarationsOf? entries with
  | some values => Except.ok values
  | none => Except.error (Fault.foreign "ValueError" Value.unwritable)

/-- How an errand goes on after an answer, and what the resolver then holds. -/
def take (holdings : Holdings) (serial : Nat) : Errand → Response → Errand × Holdings
  | starting classes startup, response =>
      let (next, held) := startup.take holdings serial response
      (afterStartup classes next, held)
  | closing way, response =>
      let (next, held) := way.take holdings response
      (closing next, held)
  | attaching _ _, Response.failed fault =>
      (created (Except.error
        (passOn Trouble.construction "Could not attach styling element" fault)), holdings)
  | attaching _ _, Response.noElement => (discarding serial, holdings)
  | attaching classes _, _ =>
      (created (Except.ok ⟨serial, classes, Handle.element⟩), holdings)
  | discarding _, Response.failed fault => (created (Except.error fault), holdings)
  | discarding _, _ =>
      (created (Except.error (Fault.ofTrouble Trouble.construction
        "DOM element creation returned a non-element handle" none)), holdings)
  | computing _, Response.failed fault =>
      (computed (Except.error
        (passOn Trouble.computation "getComputedStyle failed" fault)), holdings)
  | computing _, Response.values entries =>
      (computed (valuesOf entries), holdings)
  | computing _, _ => (computed (Except.ok OrderedMap.empty), holdings)
  | removing context, Response.failed fault =>
      (releasing context (Except.error fault), holdings)
  | removing context, _ => (releasing context (Except.ok ()), holdings)
  | releasing context _, Response.failed fault =>
      (destroyed context (Except.error fault), holdings)
  | releasing context outcome, _ =>
      (destroyed { context with handle := Handle.missing } outcome, holdings)
  | ended, _ => (ended, holdings)

/-- The reply of an errand that has its outcome. -/
def reply? : Errand → Option Reply
  | created outcome => some (Reply.created outcome)
  | computed outcome => some (Reply.computed outcome)
  | destroyed _ outcome => some (Reply.destroyed outcome)
  | _ => none

/-- Whether the errand is starting the engine. -/
def isStarting : Errand → Bool
  | starting _ _ => true
  | _ => false

end Errand

end UtilityCss.Browser

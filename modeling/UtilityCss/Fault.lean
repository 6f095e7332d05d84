import UtilityCss.Rejection
import UtilityCss.Text.Search

/-!
# Faults and their classification

A fault is anything that goes wrong while a class text is converted: a
rejection by the guard, a report of a style resolver, an error of the rendering
engine, or a foreign error.  Classification gives each fault the kind and the
message under which a failed conversion reports it.
-/

namespace UtilityCss

/-- What a style resolver reports. -/
inductive Trouble where
  | unspecified
  | access
  | construction
  | computation
deriving DecidableEq, Repr

def Trouble.kind : Trouble → ErrorKind
  | Trouble.unspecified => ErrorKind.unknown
  | Trouble.access => ErrorKind.contextSecurity
  | Trouble.construction => ErrorKind.contextConstruction
  | Trouble.computation => ErrorKind.styleComputation

/-- Faults are named; a name other than the usual one of its family marks a
more special fault of that family. -/
inductive Fault where
  /-- A fault of this library without closer description. -/
  | general (name message : String)
  /-- Input turned away with a message of its own. -/
  | declined (name message : String)
  /-- Input turned away by one of the checks. -/
  | rejected (name : String) (cause : Rejection)
  /-- A report of a style resolver, with the name of the error behind it. -/
  | resolver (name : String) (trouble : Trouble) (message : String)
      (cause : Option String)
  /-- An error of the rendering engine. -/
  | engine (timedOut : Bool) (message : String)
  /-- Any other error. -/
  | foreign (name message : String)
deriving DecidableEq, Repr

def Rejection.name : Rejection → String
  | Rejection.tooLong _ => "InputTooLongError"
  | Rejection.dangerous _ => "UnsafeContentError"
  | Rejection.crowded _ _ => "ExcessSpecialCharactersError"

def Trouble.name : Trouble → String
  | Trouble.unspecified => "ResolverError"
  | Trouble.access => "ContextSecurityError"
  | Trouble.construction => "ContextConstructionError"
  | Trouble.computation => "StyleComputationError"

namespace Fault

def ofRejection (cause : Rejection) : Fault :=
  rejected cause.name cause

def ofTrouble (trouble : Trouble) (message : String) (cause : Option String) : Fault :=
  resolver trouble.name trouble message cause

def name : Fault → String
  | general name _ => name
  | declined name _ => name
  | rejected name _ => name
  | resolver name _ _ _ => name
  | engine timedOut _ => if timedOut then "TimeoutError" else "Error"
  | foreign name _ => name

def message : Fault → String
  | general _ message => message
  | declined _ message => message
  | rejected _ cause => cause.message
  | resolver _ _ message _ => message
  | engine _ message => message
  | foreign _ message => message

/-- The kind that a fault of this library carries. -/
def kind? : Fault → Option ErrorKind
  | general _ _ => some ErrorKind.unknown
  | declined _ _ => some ErrorKind.unknown
  | rejected _ cause => some cause.kind
  | resolver _ trouble _ _ => some trouble.kind
  | engine _ _ => none
  | foreign _ _ => none

/-- The families of this library that a fault belongs to, the closest first;
a fault with a name of its own is a family by itself. -/
def families (fault : Fault) : List String :=
  let usual :=
    match fault with
    | general _ _ => ["Tw2CssError"]
    | declined _ _ => ["InputRejectedError", "Tw2CssError"]
    | rejected _ cause => [cause.name, "InputRejectedError", "Tw2CssError"]
    | resolver _ Trouble.unspecified _ _ => ["ResolverError", "Tw2CssError"]
    | resolver _ trouble _ _ => [trouble.name, "ResolverError", "Tw2CssError"]
    | engine _ _ => []
    | foreign _ _ => []
  if usual.isEmpty ∨ usual.contains fault.name then usual else fault.name :: usual

/-- The kind of an error that only its name and message tell about. -/
def kindByShape (name message : String) : ErrorKind :=
  if name = "SecurityError" then ErrorKind.contextSecurity
  else if Text.contains "SecurityError".toList message.toList then ErrorKind.contextSecurity
  else if Text.contains "DOM".toList message.toList then ErrorKind.contextConstruction
  else if Text.contains "getComputedStyle".toList message.toList then
    ErrorKind.styleComputation
  else ErrorKind.unknown

/-- What a caller sees of a fault in which a call ends.  The signal that a call is
done is no fault it can end in, so the call fails in another way. -/
def leavingCall : Fault → Fault
  | foreign "StopIteration" _ => foreign "RuntimeError" "coroutine raised StopIteration"
  | fault => fault

/-- What becomes of a fault in which the making of a context ends.  The context
is the only member of a series, and the signal that a series is over is no fault
that its making can end in. -/
def leavingSeries : Fault → Fault
  | foreign "StopAsyncIteration" _ =>
      foreign "RuntimeError" "async generator raised StopAsyncIteration"
  | fault => fault

end Fault

/-- How a failed conversion is reported. -/
structure Failure where
  kind : ErrorKind
  message : String
deriving DecidableEq, Repr

namespace Failure

/-- The report with the fixed message of a kind. -/
def ofKind (kind : ErrorKind) : Failure :=
  ⟨kind, kind.message?.getD ""⟩

/-- The report of a value that is no error at all. -/
def ofNoFault : Failure :=
  ofKind ErrorKind.unknown

end Failure

/-- Rejected input keeps its own message; resolver reports are classified by
what they report, and everything else by its name and message. -/
def Fault.classify : Fault → Failure
  | Fault.declined _ message => ⟨ErrorKind.unknown, message⟩
  | Fault.rejected _ cause => ⟨cause.kind, cause.message⟩
  | Fault.resolver name Trouble.unspecified message _ =>
      Failure.ofKind (Fault.kindByShape name message)
  | Fault.resolver _ trouble _ _ => Failure.ofKind trouble.kind
  | fault => Failure.ofKind (Fault.kindByShape fault.name fault.message)

end UtilityCss

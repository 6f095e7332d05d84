import UtilityCss.Fault
import UtilityCss.Text.Quoted

/-!
# Faults by name

Builds a fault from the name of its family, its message and the numbers it
carries.
-/

namespace UtilityCss.Fault

/-- What a description of a fault may give besides its name. -/
structure Details where
  message : String
  limit : Int
  pattern : String
  count : Int
  threshold : Int
  cause : Option String
deriving Repr

/-- The fault of a family of this library under the given name. -/
def ofFamily? (family name : String) (details : Details) : Option Fault :=
  match family with
  | "Tw2CssError" => some (general name details.message)
  | "InputRejectedError" => some (declined name details.message)
  | "InputTooLongError" => some (rejected name (Rejection.tooLong details.limit))
  | "UnsafeContentError" => some (rejected name (Rejection.dangerous details.pattern))
  | "ExcessSpecialCharactersError" =>
      some (rejected name (Rejection.crowded details.count details.threshold))
  | "ResolverError" =>
      some (resolver name Trouble.unspecified details.message details.cause)
  | "ContextSecurityError" =>
      some (resolver name Trouble.access details.message details.cause)
  | "ContextConstructionError" =>
      some (resolver name Trouble.construction details.message details.cause)
  | "StyleComputationError" =>
      some (resolver name Trouble.computation details.message details.cause)
  | _ => none

/-- The foreign error with a name.  A missing key shows itself quoted, and errors
of the operating system have two more names. -/
def foreignNamed (name message : String) : Fault :=
  match name with
  | "KeyError" => foreign name (Text.quoted message)
  | "IOError" => foreign "OSError" message
  | "EnvironmentError" => foreign "OSError" message
  | _ => foreign name message

/-- Errors that the operating system reports, apart from that of a missing
file. -/
def systemErrors : List String :=
  ["OSError", "BlockingIOError", "BrokenPipeError", "ChildProcessError",
    "ConnectionAbortedError", "ConnectionError", "ConnectionRefusedError",
    "ConnectionResetError", "FileExistsError", "InterruptedError", "IsADirectoryError",
    "NotADirectoryError", "PermissionError", "ProcessLookupError", "TimeoutError"]

/-- Whether a fault is an error of the operating system; an engine that took too
long only shares the name of one. -/
def isSystemError : Fault → Bool
  | foreign name _ => systemErrors.contains name
  | _ => false

/-- The fault with a name, which is that of a family or of a foreign error; a
name of its own may be given a family to belong to. -/
def named (name : String) (family : Option String) (details : Details) : Fault :=
  match ofFamily? name name details with
  | some fault => fault
  | none => ((family.bind fun base => ofFamily? base name details)).getD (foreignNamed name details.message)

end UtilityCss.Fault

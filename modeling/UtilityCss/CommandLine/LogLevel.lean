import UtilityCss.Text.Letter
import UtilityCss.Value.Text

/-!
# Levels of the log

A level is named in the configuration, or asked for by being verbose once or
several times.  A name that is none stands for warnings.
-/

namespace UtilityCss.CommandLine

inductive LogLevel where
  | everything
  | debug
  | info
  | warning
  | error
  | critical
deriving DecidableEq, Repr

namespace LogLevel

def number : LogLevel → Nat
  | everything => 0
  | debug => 10
  | info => 20
  | warning => 30
  | error => 40
  | critical => 50

/-- The names of levels. -/
def names : List (String × LogLevel) :=
  [("CRITICAL", critical), ("FATAL", critical), ("ERROR", error), ("WARNING", warning),
    ("WARN", warning), ("INFO", info), ("DEBUG", debug), ("NOTSET", everything)]

/-- The level with a name, in whatever case. -/
def named (name : String) : LogLevel :=
  let capital := String.ofList (Text.upper name.toList)
  ((names.find? fun entry => entry.1 == capital).map Prod.snd).getD warning

/-- The level for a configured value, unless verbosity asks for another.  The
value has to be written to be read as a name, whether or not it is asked for. -/
def chosen? (verbosity : Nat) (configured : Value) : Option LogLevel :=
  configured.display?.map fun name =>
    match verbosity with
    | 0 => named name
    | 1 => info
    | _ => debug

end LogLevel

end UtilityCss.CommandLine

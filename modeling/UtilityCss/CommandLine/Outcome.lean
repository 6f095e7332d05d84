import UtilityCss.CommandLine.LogLevel
import UtilityCss.CommandLine.Screen
import UtilityCss.Conversion.Json

/-!
# What a run of the program shows

A run prints texts to two channels and ends with an exit code.  An error that
nobody expected ends it as well, under the name of the error.
-/

namespace UtilityCss.CommandLine

/-- Texts that are printed one after another, each on lines of its own. -/
structure Printed where
  output : List String
  errors : List String
deriving DecidableEq, Repr

namespace Printed

def nothing : Printed := ⟨[], []⟩

def toOutput (texts : List String) : Printed := ⟨texts, []⟩

def toErrors (texts : List String) : Printed := ⟨[], texts⟩

instance : Append Printed where
  append first second := ⟨first.output ++ second.output, first.errors ++ second.errors⟩

/-- A conversion as it is printed: its message, or else its block and its
warnings. -/
def ofConversion (highlighting : Bool) (result : Conversion) : Printed :=
  match result.failure with
  | some failure => toErrors [labelled "Error" failure.message]
  | none =>
      ⟨if result.css = "" then [] else [block highlighting result.css],
        (result.warnings.getD []).map (labelled "Warning")⟩

end Printed

structure Outcome where
  printed : Printed
  exitCode : Nat
  logLevel : LogLevel
  /-- The name of an error that nobody expected. -/
  unexpected : Option String
deriving DecidableEq, Repr

namespace Outcome

/-- The program ends before it looks at its configuration. -/
def early (printed : Printed) (exitCode : Nat) : Outcome :=
  ⟨printed, exitCode, LogLevel.warning, none⟩

end Outcome

end UtilityCss.CommandLine

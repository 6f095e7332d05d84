import UtilityCss.Settings.Field
import UtilityCss.Yaml.Reader

/-!
# What keeps a program from starting

Settings, style tables and resolvers come from files and variables.  An
obstacle is what is wrong with them when they cannot be used.
-/

namespace UtilityCss

inductive Obstacle where
  /-- Nothing stands at a path that is needed. -/
  | missing (message : String)
  /-- A folder stands where a file is needed. -/
  | folder
  /-- A file that is needed cannot be opened. -/
  | locked
  /-- A path is too long to be looked at. -/
  | overlong
  /-- A text does not follow the configuration language. -/
  | malformed
  /-- A value is not among those that can be used. -/
  | unfit (message : String)
  /-- A record has fields that do not fit. -/
  | invalid (complaints : Invalid)
  /-- Anything else, under a name of its own. -/
  | other (name message : String)
deriving DecidableEq, Repr

namespace Obstacle

def ofProblem : Yaml.Problem → Obstacle
  | Yaml.Problem.malformed _ => malformed
  | Yaml.Problem.unusable name message => other name message

def name : Obstacle → String
  | missing _ => "FileNotFoundError"
  | folder => "IsADirectoryError"
  | locked => "PermissionError"
  | overlong => "OSError"
  | malformed => "YAMLError"
  | unfit _ => "ValueError"
  | invalid _ => "ValidationError"
  | other name _ => name

def message? : Obstacle → Option String
  | missing message => some message
  | unfit message => some message
  | other _ message => some message
  | _ => none

/-- What is said to whoever started the program, about an obstacle that is
expected to occur; nothing is said about the others. -/
def report? : Obstacle → Option String
  | missing message => some message
  | unfit message => some message
  | invalid complaints => some complaints.headline
  | other "ValueError" message => some message
  | _ => none

end Obstacle

end UtilityCss

import UtilityCss.Yaml.Mapping

/-!
# Files and variables around the program

The program runs in surroundings: files and folders found at paths, the folders
from the working folder upward, the variables of its environment, and a reader
of the configuration language.  Paths are texts as somebody wrote them.
-/

namespace UtilityCss

/-- What stands at a path. -/
inductive Entry where
  | file (content : String)
  | folder
  /-- A file that cannot be opened. -/
  | locked
deriving DecidableEq, Repr

structure Surroundings where
  /-- What stands at a path, if anything does. -/
  entry? : String → Option Entry
  /-- Whether a path is too long to be looked at; nothing stands at such a path. -/
  isOverlong : String → Bool
  /-- The path of the configuration file for all folders. -/
  globalFile : String
  /-- The working folder and the folders around it, the closest first. -/
  folders : List String
  environment : String → Option String
  /-- What gives the texts of configuration files and style tables their
  values. -/
  reader : Yaml.Reader := Yaml.reader

namespace Surroundings

/-- Nothing at all. -/
def empty : Surroundings where
  entry? := fun _ => none
  isOverlong := fun _ => false
  globalFile := ""
  folders := []
  environment := fun _ => none

/-- The path of a name in the closest folder where something stands under that
name. -/
def closest? (surroundings : Surroundings) (name : String) : Option String :=
  (surroundings.folders.map fun folder => folder ++ "/" ++ name).find? fun path =>
    (surroundings.entry? path).isSome

end Surroundings

end UtilityCss

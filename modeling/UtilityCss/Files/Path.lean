import UtilityCss.Text.Search

/-!
# Written paths

A path is written as names between slashes.  Empty names and single dots say
nothing, and the tidy form of a path leaves them out.
-/

namespace UtilityCss.Path

/-- The names of a path as they are written, empty ones included. -/
def names (path : String) : List String :=
  (Text.splitAt '/' path.toList).map String.ofList

/-- Whether a single name has more octets than names may have. -/
def isOverlongName (name : String) : Bool :=
  decide (255 < name.utf8ByteSize)

/-- Whether a path has more octets than paths may have. -/
def isOverlong (path : String) : Bool :=
  decide (4096 ≤ path.utf8ByteSize)

/-- How a path begins: a path from the root has a slash in front, and exactly
two slashes are kept apart from one. -/
def start (path : String) : String :=
  match path.toList with
  | '/' :: '/' :: '/' :: _ => "/"
  | '/' :: '/' :: _ => "//"
  | '/' :: _ => "/"
  | _ => ""

/-- The path without the names that say nothing; a path without names is the
working folder. -/
def tidy (path : String) : String :=
  let telling := (names path).filter fun name => name != "" && name != "."
  let tidied := start path ++ "/".intercalate telling
  if tidied = "" then "." else tidied

/-- A path from the root and the folders around it, the closest first and the
root, written as nothing, last. -/
def upward (path : String) : List String :=
  let telling := (names path).filter fun name => name != "" && name != "."
  (List.range (telling.length + 1)).reverse.map fun count =>
    String.join ((telling.take count).map fun name => "/" ++ name)

end UtilityCss.Path

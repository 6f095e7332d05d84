import UtilityCss.Files
import UtilityCss.Files.Path

/-!
# A tree of files

A file tree lists entries by the names that lead to them from its root.  What
lies outside the tree is not seen.
-/

namespace UtilityCss

structure FileTree where
  /-- How the root is written at the front of a path. -/
  root : String
  entries : List (List String × Entry)

namespace FileTree

/-- The entry at a place; whatever has entries below it is a folder. -/
def at? (tree : FileTree) (place : List String) : Option Entry :=
  match tree.entries.find? fun entry => entry.1 == place with
  | some (_, entry) => some entry
  | none =>
      if tree.entries.any fun entry => place.isPrefixOf entry.1 then some Entry.folder
      else none

/-- Follows names from a place; only folders can be left. -/
def follow (tree : FileTree) (place : List String) : List String → Option (List String)
  | [] => some place
  | name :: others =>
      match tree.at? place with
      | some Entry.folder =>
          if name = "" ∨ name = "." then tree.follow place others
          else if name = ".." then
            if place.isEmpty then none else tree.follow place.dropLast others
          else tree.follow (place ++ [name]) others
      | _ => none

/-- Whether an overlong name is met when names are followed from a place; what
lies behind a missing folder or a file is not met. -/
def meetsOverlong (tree : FileTree) (place : List String) : List String → Bool
  | [] => false
  | name :: others =>
      match tree.at? place with
      | some Entry.folder =>
          if name = "" ∨ name = "." then tree.meetsOverlong place others
          else if name = ".." then tree.meetsOverlong place.dropLast others
          else Path.isOverlongName name || tree.meetsOverlong (place ++ [name]) others
      | _ => false

/-- Where a path starts from and the names that it follows from there, unless it
leads elsewhere. -/
def route? (tree : FileTree) (working : List String) (path : String) :
    Option (List String × List String) :=
  if path = "" then none
  else if (tree.root ++ "/").toList.isPrefixOf path.toList then
    some ([], Path.names (String.ofList (path.toList.drop tree.root.length)))
  else if Path.start path = "" then some (working, Path.names path)
  else none

/-- The entry at a path that is written from a working place. -/
def entry? (tree : FileTree) (working : List String) (path : String) : Option Entry := do
  let (place, names) ← tree.route? working path
  tree.at? (← tree.follow place names)

/-- Whether a path or one of the names on its way is too long. -/
def isOverlong (tree : FileTree) (working : List String) (path : String) : Bool :=
  Path.isOverlong path ||
    match tree.route? working path with
    | some (place, names) => tree.meetsOverlong place names
    | none => ((Path.names path).find? (· != "")).any Path.isOverlongName

/-- How a place is written. -/
def written (tree : FileTree) (place : List String) : String :=
  tree.root ++ String.join (place.map fun name => "/" ++ name)

/-- The places from a given one up to the root. -/
def upward (place : List String) : List (List String) :=
  (List.range (place.length + 1)).reverse.map place.take

/-- The surroundings of a program that works at a place of the tree. -/
def surroundings (tree : FileTree) (working globalFile : List String)
    (environment : String → Option String) : Surroundings where
  entry? := fun path => if tree.isOverlong working path then none else tree.entry? working path
  isOverlong := tree.isOverlong working
  globalFile := tree.written globalFile
  folders := (upward working).map tree.written
  environment := environment

end FileTree

end UtilityCss

import UtilityCss.Files
import UtilityCss.Files.Path
import UtilityCss.Obstacle
import UtilityCss.StyleTable

/-!
# Style tables in files

The text of a style table is a map with the styles and perhaps the base values.
Everything that keeps a text from being a table is reported.
-/

namespace UtilityCss.StyleTable

/-- The table that a value describes; the path only says where it came from. -/
def ofValue (path : String) (value : Value) : Except Obstacle StyleTable :=
  let unfit :=
    Obstacle.unfit ("Invalid style table: missing top-level 'styles' key in " ++ path)
  match value.entries? with
  | some entries =>
      let fields := OrderedMap.mk entries
      if !fields.contains (Atom.text "styles") then Except.error unfit
      else if entries.all fun entry => entry.1.isText then
        match ofFields fun name => fields.find? (Atom.text name) with
        | Except.ok table => Except.ok table
        | Except.error complaints => Except.error (Obstacle.invalid complaints)
      else
        Except.error (Obstacle.other "TypeError" "keywords must be strings")
  | none => Except.error unfit

/-- The table in a text. -/
def ofText (reader : Yaml.Reader) (path text : String) : Except Obstacle StyleTable :=
  match reader.load text with
  | Except.error problem => Except.error (Obstacle.ofProblem problem)
  | Except.ok value => ofValue path value

/-- The table in the file at a path. -/
def load (surroundings : Surroundings) (path : String) : Except Obstacle StyleTable :=
  let path := Path.tidy path
  if surroundings.isOverlong path then Except.error Obstacle.overlong
  else
    match surroundings.entry? path with
    | none => Except.error (Obstacle.missing ("Style table not found: " ++ path))
    | some Entry.folder => Except.error Obstacle.folder
    | some Entry.locked => Except.error Obstacle.locked
    | some (Entry.file text) => ofText surroundings.reader path text

end UtilityCss.StyleTable

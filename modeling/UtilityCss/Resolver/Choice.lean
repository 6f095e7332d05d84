import UtilityCss.Configuration
import UtilityCss.Files.Path
import UtilityCss.Resolver.Browser.Options
import UtilityCss.StyleTable.Core
import UtilityCss.StyleTable.File
import UtilityCss.Text.Line

/-!
# Choosing a resolver

A configuration names the kind of resolver it wants, or leaves the choice open:
then a style sheet asks for the browser, and otherwise a table will do.
-/

namespace UtilityCss

/-- A resolver that is ready to be made. -/
inductive ResolverChoice where
  | table (table : StyleTable)
  | browser (options : Browser.Options)
deriving Repr

namespace ResolverChoice

/-- The value of a key, unless it counts as not given. -/
def given? (configuration : Configuration) (key : String) : Option Value :=
  (configuration.field? key).filter Value.isTruthy

/-- The path that a value gives. -/
def pathOf : Value → Except Obstacle String
  | Value.atom (Atom.text chars) => Except.ok chars
  | other =>
      Except.error (Obstacle.other "TypeError"
        ("expected str, bytes or os.PathLike object, not " ++ other.typeName))

/-- What is wrong with a value that names nothing to choose from: that it is
unknown, or that it cannot even be written. -/
def refusal (message : String → String) (value : Value) : Obstacle :=
  match value.display? with
  | some shown => Obstacle.unfit (message shown)
  | none => Obstacle.unfit Value.unwritable

/-- What is said about a value that names no kind of resolver. -/
def unknown (shown : String) : String :=
  "Unknown resolver '" ++ shown ++ "'. Choose one of: auto, static, browser"

/-- The kind of resolver that is wanted. -/
def kind (configuration : Configuration) : Value :=
  let wanted := (given? configuration "resolver").getD (Value.text "auto")
  match wanted with
  | Value.atom (Atom.text "auto") =>
      match given? configuration "stylesheet" with
      | some _ => Value.text "browser"
      | none => Value.text "static"
  | other => other

def ofTable (surroundings : Surroundings) (configuration : Configuration) :
    Except Obstacle ResolverChoice := do
  match given? configuration "styles_file" with
  | none => return table StyleTable.core
  | some value => return table (← StyleTable.load surroundings (← pathOf value))

/-- The style sheet at a path. -/
def stylesheetAt (surroundings : Surroundings) (path : String) : Except Obstacle String :=
  let path := Path.tidy path
  if surroundings.isOverlong path then Except.error Obstacle.overlong
  else
    match surroundings.entry? path with
    | none => Except.error (Obstacle.missing ("Stylesheet not found: " ++ path))
    | some Entry.folder => Except.error Obstacle.folder
    | some Entry.locked => Except.error Obstacle.locked
    | some (Entry.file text) =>
        Except.ok (String.ofList (Text.unifyBreaks text.toList))

def ofBrowser (surroundings : Surroundings) (configuration : Configuration) :
    Except Obstacle ResolverChoice := do
  let stylesheet ←
    match given? configuration "stylesheet" with
    | none => pure ""
    | some value => stylesheetAt surroundings (← pathOf value)
  let wanted := (configuration.field? "browser").getD (Value.text "chromium")
  match Browser.Engine.ofValue? wanted with
  | none => throw (refusal Browser.Engine.refusal wanted)
  | some engine =>
      return browser
        { Browser.Options.usual with
          stylesheet := stylesheet
          engine := engine
          timeout := (configuration.field? "launch_timeout_ms").getD
            Browser.Options.usual.timeout }

/-- The resolver that a configuration asks for. -/
def ofConfiguration (surroundings : Surroundings) (configuration : Configuration) :
    Except Obstacle ResolverChoice :=
  match kind configuration with
  | Value.atom (Atom.text "static") => ofTable surroundings configuration
  | Value.atom (Atom.text "browser") => ofBrowser surroundings configuration
  | other => Except.error (refusal unknown other)

end ResolverChoice

end UtilityCss

import UtilityCss.Text.Markup
import UtilityCss.Value

/-!
# Options of the browser resolver

The browser resolver runs one of three engines on a page with a style sheet of
its own, or a link to one, or both.
-/

namespace UtilityCss.Browser

/-- The rendering engines to choose from. -/
inductive Engine where
  | chromium
  | firefox
  | webkit
deriving DecidableEq, Repr

namespace Engine

def all : List Engine := [chromium, firefox, webkit]

def label : Engine → String
  | chromium => "chromium"
  | firefox => "firefox"
  | webkit => "webkit"

/-- The engine with a label. -/
def named? (name : String) : Option Engine :=
  all.find? fun engine => engine.label == name

/-- The engine that a value names. -/
def ofValue? : Value → Option Engine
  | Value.atom (Atom.text chars) => named? chars
  | _ => none

/-- What is said about a value that names no engine. -/
def refusal (shown : String) : String :=
  "Unsupported browser '" ++ shown ++ "'. Choose one of: " ++
    ", ".intercalate (all.map label)

end Engine

structure Options where
  stylesheet : String
  stylesheetLink : String
  engine : Engine
  headless : Bool
  /-- The time in which the engine has to come up, handed on as it is given. -/
  timeout : Value
deriving Repr

namespace Options

def usual : Options where
  stylesheet := ""
  stylesheetLink := ""
  engine := Engine.chromium
  headless := true
  timeout := Value.int 30000

instance : Inhabited Options := ⟨usual⟩

/-- The page in which styles are computed.  The style sheet comes last and so
overrides the linked one. -/
def document (options : Options) : String :=
  let link :=
    if options.stylesheetLink = "" then ""
    else
      "<link rel=\"stylesheet\" href=\"" ++
        String.ofList (Text.escapeMarkup options.stylesheetLink.toList) ++ "\">"
  let style :=
    if options.stylesheet = "" then ""
    else "<style>" ++ options.stylesheet ++ "</style>"
  "<!DOCTYPE html><html><head><meta charset=\"utf-8\">" ++ link ++ style ++
    "</head><body></body></html>"

end Options

end UtilityCss.Browser

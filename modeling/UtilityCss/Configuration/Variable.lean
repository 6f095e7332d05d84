import UtilityCss.Configuration
import UtilityCss.Text.Integer
import UtilityCss.Text.Letter

/-!
# Configuration by variables

A variable of the environment sets one key each.  Its text is read as what the
key wants; a text that is not the integer it should be is kept as it is, and a
notice tells of it.
-/

namespace UtilityCss

/-- What is told while a configuration is put together. -/
inductive Notice where
  /-- The file holds something else than a mapping. -/
  | noMapping (path : String)
  /-- The file cannot be read. -/
  | unreadable (path : String)
  /-- The text of a variable is no integer. -/
  | noInteger (key text : String)
deriving DecidableEq, Repr

def Notice.text : Notice → String
  | noMapping path => "Config file " ++ path ++ " is not a mapping, ignoring"
  | unreadable path => "Failed to load config " ++ path
  | noInteger key text =>
      "Cannot convert env var for '" ++ key ++ "' to int: " ++ text

namespace Configuration.Variable

/-- The variables with the keys they set, in the order in which they are
read. -/
def all : List (String × String) :=
  [
    ("TW2CSS_MAX_INPUT_LENGTH", "max_input_length"),
    ("TW2CSS_CACHE_CAPACITY", "cache_capacity"),
    ("TW2CSS_DEBOUNCE_MS", "debounce_ms"),
    ("TW2CSS_SYNTAX_HIGHLIGHTING", "enable_syntax_highlighting"),
    ("TW2CSS_STYLES_FILE", "styles_file"),
    ("TW2CSS_STYLESHEET", "stylesheet"),
    ("TW2CSS_RESOLVER", "resolver"),
    ("TW2CSS_BROWSER", "browser"),
    ("TW2CSS_LAUNCH_TIMEOUT_MS", "launch_timeout_ms"),
    ("TW2CSS_LOG_LEVEL", "log_level")
  ]

/-- The keys that want an integer. -/
def integerKeys : List String :=
  ["max_input_length", "cache_capacity", "debounce_ms", "launch_timeout_ms"]

/-- The keys that want a truth value. -/
def truthKeys : List String := ["enable_syntax_highlighting"]

/-- The words that stand for true; everything else stands for false. -/
def trueWords : List String := ["1", "true", "yes", "on"]

/-- The value of a key whose variable has the given text. -/
def read (key text : String) : Value × List Notice :=
  if truthKeys.contains key then
    let word := Text.lower (Text.trim text.toList)
    (Value.bool (trueWords.contains (String.ofList word)), [])
  else if integerKeys.contains key then
    match Text.integerOf? text.toList with
    | some number => (Value.int number, [])
    | none => (Value.text text, [Notice.noInteger key text])
  else
    (Value.text text, [])

/-- The keys that are set by variables, each with its value and what is told
about it. -/
def readAll (environment : String → Option String) : List (Atom × Value × List Notice) :=
  all.filterMap fun entry =>
    (environment entry.1).map fun text => (Atom.text entry.2, read entry.2 text)

end Configuration.Variable

end UtilityCss

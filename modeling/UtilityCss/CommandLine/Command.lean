import UtilityCss.Resolver.Browser.Options

/-!
# Commands and their options

The program has three commands.  An option of a command is known by a long name
and perhaps by a letter, and wants an argument or stands by itself.
-/

namespace UtilityCss.CommandLine

/-- What an option wants. -/
inductive OptionKind where
  | choice (values : List String)
  | file
  | integer
  | switch
  /-- May be given several times. -/
  | count
  | version
  | help
deriving DecidableEq, Repr

namespace OptionKind

def wantsArgument : OptionKind → Bool
  | choice _ => true
  | file => true
  | integer => true
  | _ => false

/-- Options that show something and end the program come before all others. -/
def isEager : OptionKind → Bool
  | version => true
  | help => true
  | _ => false

/-- The argument as it is shown in help. -/
def placeholder : OptionKind → String
  | choice values => " [" ++ "|".intercalate values ++ "]"
  | file => " FILE"
  | integer => " INTEGER"
  | _ => ""

end OptionKind

structure CommandOption where
  name : String
  letter : Option Char
  kind : OptionKind
  purpose : String
deriving DecidableEq, Repr

namespace CommandOption

def long (name : String) (kind : OptionKind) (purpose : String) : CommandOption :=
  ⟨name, none, kind, purpose⟩

/-- How the option is shown in help. -/
def form (option : CommandOption) : String :=
  let letter :=
    match option.letter with
    | some letter => "-" ++ letter.toString ++ ", "
    | none => ""
  letter ++ option.name ++ option.kind.placeholder

end CommandOption

structure Command where
  name : String
  /-- The arguments besides options, as they are shown in help. -/
  operands : String
  takesOperands : Bool
  /-- What the command is for, in paragraphs. -/
  purpose : List String
  options : List CommandOption
deriving DecidableEq, Repr

def programName : String := "tw2css"

def programVersion : String := "0.1.0"

def helpOption : CommandOption :=
  CommandOption.long "--help" OptionKind.help "Show this message and exit."

def stylesFileOption : CommandOption :=
  CommandOption.long "--styles-file" OptionKind.file
    "YAML style table for the static resolver."

def stylesheetOption : CommandOption :=
  CommandOption.long "--stylesheet" OptionKind.file
    "CSS file loaded into the browser resolver's page."

def verboseOption : CommandOption :=
  ⟨"--verbose", some 'v', OptionKind.count, "Increase verbosity (-v info, -vv debug)."⟩

def convertCommand : Command where
  name := "convert"
  operands := " [CLASSES]..."
  takesOperands := true
  purpose := ["Convert CLASSES (or stdin when none are given) to CSS."]
  options :=
    [
      CommandOption.long "--resolver" (OptionKind.choice ["auto", "static", "browser"])
        "Style resolver to use.",
      stylesFileOption,
      stylesheetOption,
      CommandOption.long "--browser"
        (OptionKind.choice (Browser.Engine.all.map Browser.Engine.label))
        "Browser engine for the browser resolver.",
      CommandOption.long "--max-input-length" OptionKind.integer "Reject longer input.",
      CommandOption.long "--json" OptionKind.switch "Print the result as JSON.",
      CommandOption.long "--no-highlight" OptionKind.switch "Disable syntax colouring.",
      verboseOption,
      helpOption
    ]

def propertiesCommand : Command where
  name := "properties"
  operands := ""
  takesOperands := false
  purpose := ["List the CSS properties included in output and their defaults."]
  options := [helpOption]

def replCommand : Command where
  name := "repl"
  operands := ""
  takesOperands := false
  purpose :=
    ["Convert one line of classes at a time, sharing one cache.",
      "Commands: :status, :reset, :quit"]
  options := [stylesFileOption, stylesheetOption, verboseOption, helpOption]

/-- The commands in the order in which they are listed. -/
def commands : List Command := [convertCommand, propertiesCommand, replCommand]

/-- The options of the program itself. -/
def programOptions : List CommandOption :=
  [CommandOption.long "--version" OptionKind.version "Show the version and exit.",
    helpOption]

def programPurpose : String :=
  "tw2css: convert Tailwind-style utility classes to plain CSS."

end UtilityCss.CommandLine

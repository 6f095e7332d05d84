import UtilityCss.CommandLine.Arguments
import UtilityCss.CommandLine.Converting
import UtilityCss.CommandLine.Help
import UtilityCss.CommandLine.PropertyTable
import UtilityCss.Configuration.Layers

/-!
# The command line

A run of the program is a function of its surroundings, its arguments and its
input.  Arguments that cannot be read end it with usage; obstacles in the
configuration end it with a message or, when nobody expected them, with the
name of the error.
-/

namespace UtilityCss.CommandLine

/-- A run that ends because of how the program was called. -/
def refuse (command : Option Command) (problem : UsageProblem) : Outcome :=
  let error := "Error: " ++ problem.message
  let lines :=
    if problem.showsUsage then [usage command, hint command, "", error] else [error]
  if problem = UsageProblem.argumentBroken then
    ⟨Printed.nothing, 1, LogLevel.warning, some (Obstacle.unfit "").name⟩
  else Outcome.early (Printed.toErrors lines) 2

def showHelp (command : Option Command) : Outcome :=
  Outcome.early (Printed.toOutput (help command)) 0

def showVersion : Outcome :=
  Outcome.early
    (Printed.toOutput [programName ++ ", version " ++ programVersion]) 0

/-- What the arguments of a command ask of the configuration. -/
def request (arguments : Arguments) : List (Atom × Value) :=
  let texts := [("resolver", "--resolver"), ("styles_file", "--styles-file"),
      ("stylesheet", "--stylesheet"), ("browser", "--browser")].filterMap fun entry =>
    (arguments.last? entry.2).map fun text => (Atom.text entry.1, Value.text text)
  let limit := (arguments.last? "--max-input-length").bind fun text =>
    (Text.integerOf? text.toList).map fun number =>
      (Atom.text "max_input_length", Value.int number)
  let plain :=
    if arguments.count "--no-highlight" = 0 then []
    else [(Atom.text "enable_syntax_highlighting", Value.bool false)]
  texts ++ limit.toList ++ plain

/-- The bench that a configuration asks for. -/
def benchOf (surroundings : Surroundings) (configuration : Configuration) :
    Except Obstacle Bench := do
  let choice ← ResolverChoice.ofConfiguration surroundings configuration
  match configuration.settings with
  | Except.ok settings => return Bench.create settings choice
  | Except.error complaints => throw (Obstacle.invalid complaints)

/-- A bench that is ready, with what was told on the way there. -/
structure Ready where
  bench : Bench
  told : Printed
  logLevel : LogLevel

/-- How a run goes on once everything but its input is known. -/
inductive Plan where
  | ended (outcome : Outcome)
  /-- Converts the operands, or the whole input without any. -/
  | once (ready : Ready) (asJson : Bool) (operands : List String)
  /-- Serves the input line by line. -/
  | lines (ready : Ready)

/-- Gets a bench ready, if nothing stands in the way. -/
def prepare (surroundings : Surroundings) (arguments : Arguments) :
    Except Outcome Ready :=
  let (notices, gathered) := Configuration.gather surroundings (request arguments)
  let told := Printed.toErrors (notices.map Notice.text)
  match gathered with
  | Except.error obstacle =>
      Except.error ⟨told, 1, LogLevel.warning, some obstacle.name⟩
  | Except.ok configuration =>
      match LogLevel.chosen? (arguments.count "--verbose")
          ((configuration.field? "log_level").getD (Value.text "WARNING")) with
      | none =>
          let obstacle := Obstacle.unfit Value.unwritable
          Except.error ⟨told, 1, LogLevel.warning, some obstacle.name⟩
      | some level =>
          match benchOf surroundings configuration with
          | Except.ok bench => Except.ok ⟨bench, told, level⟩
          | Except.error obstacle =>
              match obstacle.report? with
              | some message =>
                  Except.error
                    ⟨told ++ Printed.toErrors [labelled "Error" message], 2, level, none⟩
              | none => Except.error ⟨told, 1, level, some obstacle.name⟩

/-- The text to convert: the operands, or the whole input without any. -/
def textToConvert (operands : List String) (input : String) : String :=
  match operands with
  | [] => String.ofList (Text.unifyBreaks input.toList)
  | _ => " ".intercalate operands

/-- One conversion, printed in words or as JSON. -/
def convertOnce (bench : Bench) (asJson : Bool) (text : String) : Printed × Nat :=
  let (result, _) := bench.convert text
  let exitCode := if result.failure.isSome then 1 else 0
  if asJson then (Printed.toOutput [result.json], exitCode)
  else (Printed.ofConversion bench.highlighting result, exitCode)

/-- The lines of an input. -/
def inputLines (input : String) : List String :=
  (Text.lines (Text.unifyBreaks input.toList)).map String.ofList

/-- The plan for a command whose arguments fit. -/
def planFor (surroundings : Surroundings) (command : Command) (arguments : Arguments) :
    Plan :=
  if command = propertiesCommand then
    Plan.ended (Outcome.early (Printed.toOutput PropertyTable.lines) 0)
  else
    match prepare surroundings arguments with
    | Except.error outcome => Plan.ended outcome
    | Except.ok ready =>
        if command = replCommand then Plan.lines ready
        else Plan.once ready (arguments.count "--json" != 0) arguments.operands

/-- The plan for a command with the words behind it. -/
def planCommand (surroundings : Surroundings) (command : Command) (words : List String) :
    Plan :=
  match readArguments command.options false words with
  | Except.error problem => Plan.ended (refuse (some command) problem)
  | Except.ok arguments =>
      if arguments.eager?.isSome then Plan.ended (showHelp (some command))
      else
        match firstUnfit? surroundings arguments with
        | some problem => Plan.ended (refuse (some command) problem)
        | none =>
            if !command.takesOperands && !arguments.operands.isEmpty then
              Plan.ended (refuse (some command)
                (UsageProblem.operandsUnwanted arguments.operands))
            else planFor surroundings command arguments

/-- What the options in front of the command show, if they end the program. -/
def shownFirst? (arguments : Arguments) : Option Outcome :=
  match arguments.eager? with
  | some OptionKind.version => some showVersion
  | some _ => some (showHelp none)
  | none => none

/-- A word in place of a command that is none.  A word that looks like an option
is read as one once more. -/
def refuseCommand (name : String) (words : List String) : Outcome :=
  let unknown := refuse none
    (UsageProblem.unknownCommand name (Text.closeTo name (commands.map Command.name)))
  if isOption name then
    match readArguments programOptions true words with
    | Except.error problem => refuse none problem
    | Except.ok arguments => (shownFirst? arguments).getD unknown
  else unknown

/-- The plan for the words that the program was called with. -/
def plan (surroundings : Surroundings) (words : List String) : Plan :=
  if words.isEmpty then Plan.ended (Outcome.early (Printed.toErrors (help none)) 2)
  else
    match readArguments programOptions true words with
    | Except.error problem => Plan.ended (refuse none problem)
    | Except.ok arguments =>
        match shownFirst? arguments, arguments.operands with
        | some outcome, _ => Plan.ended outcome
        | none, [] => Plan.ended (refuse none UsageProblem.commandMissing)
        | none, name :: others =>
            match commands.find? fun command => command.name == name with
            | some command => planCommand surroundings command others
            | none => Plan.ended (refuseCommand name (name :: others))

/-- The end of a run that got a bench ready. -/
def Ready.finish (ready : Ready) (printed : Printed) (exitCode : Nat) : Outcome :=
  ⟨ready.told ++ printed, exitCode, ready.logLevel, none⟩

/-- A run of the program. -/
def run (surroundings : Surroundings) (words : List String) (input : String) : Outcome :=
  match plan surroundings words with
  | Plan.ended outcome => outcome
  | Plan.once ready asJson operands =>
      let (printed, exitCode) :=
        convertOnce ready.bench asJson (textToConvert operands input)
      ready.finish printed exitCode
  | Plan.lines ready =>
      let (printed, obstacle) := ready.bench.serveLines (inputLines input)
      match obstacle with
      | none => ready.finish printed 0
      | some obstacle => { ready.finish printed 1 with unexpected := some obstacle.name }

end UtilityCss.CommandLine

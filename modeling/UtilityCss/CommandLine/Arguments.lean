import UtilityCss.CommandLine.Command
import UtilityCss.Files
import UtilityCss.Text.Integer
import UtilityCss.Text.Quoted
import UtilityCss.Text.Search
import UtilityCss.Text.Similarity
import UtilityCss.Value

/-!
# Reading the arguments of a command

Arguments are options, the arguments that options want, and operands.  Two
hyphens by themselves end the options.  Reading finds every option first; only
then are their arguments looked at, in the order in which the options came.
-/

namespace UtilityCss.CommandLine

/-- What is wrong with how the program was called. -/
inductive UsageProblem where
  | unknownOption (name : String) (similar : List String)
  | argumentMissing (option : String)
  | argumentUnwanted (option : String)
  | argumentUnfit (option reason : String)
  /-- A path with a null character, of which nothing is said. -/
  | argumentBroken
  | operandsUnwanted (operands : List String)
  | unknownCommand (name : String) (similar : List String)
  | commandMissing
deriving DecidableEq, Repr

namespace UsageProblem

/-- Names that may have been meant. -/
def suggestion : List String → String
  | [] => ""
  | [only] => " Did you mean " ++ Text.quoted only ++ "?"
  | several =>
      let sorted := several.mergeSort fun left right => decide (left ≤ right)
      " (Did you mean one of: " ++ ", ".intercalate (sorted.map Text.quoted) ++ "?)"

def message : UsageProblem → String
  | unknownOption name similar =>
      "No such option " ++ Text.quoted name ++ "." ++ suggestion similar
  | argumentMissing option => "Option " ++ Text.quoted option ++ " requires an argument."
  | argumentUnwanted option => "Option " ++ Text.quoted option ++ " does not take a value."
  | argumentUnfit option reason => "Invalid value for '" ++ option ++ "': " ++ reason
  | argumentBroken => ""
  | operandsUnwanted operands =>
      "Got unexpected extra argument" ++ (if operands.length = 1 then "" else "s") ++
        " (" ++ " ".intercalate operands ++ ")"
  | unknownCommand name similar =>
      "No such command " ++ Text.quoted name ++ "." ++ suggestion similar
  | commandMissing => "Missing command."

/-- Whether the problem is told together with how to call the command. -/
def showsUsage : UsageProblem → Bool
  | argumentMissing _ => false
  | argumentUnwanted _ => false
  | _ => true

end UsageProblem

/-- An option with the argument it was given. -/
structure Occurrence where
  option : CommandOption
  argument : String
deriving DecidableEq, Repr

structure Arguments where
  occurrences : List Occurrence
  operands : List String
deriving DecidableEq, Repr

/-- An argument of the form of options cut at the first equals sign. -/
def splitArgument (argument : String) : String × Option String :=
  let chars := argument.toList
  match chars.dropWhile (· != '=') with
  | [] => (argument, none)
  | _ :: value => (String.ofList (chars.takeWhile (· != '=')), some (String.ofList value))

def findLong? (options : List CommandOption) (name : String) : Option CommandOption :=
  options.find? fun option => option.name == name

def findLetter? (options : List CommandOption) (letter : Char) : Option CommandOption :=
  options.find? fun option => option.letter == some letter

/-- Letters behind one hyphen; no option with a letter wants an argument. -/
def readLetters (options : List CommandOption) :
    List Char → Except UsageProblem (List Occurrence)
  | [] => Except.ok []
  | letter :: letters =>
      match findLetter? options letter with
      | none =>
          Except.error (UsageProblem.unknownOption (String.ofList ['-', letter]) [])
      | some option => do
          let others ← readLetters options letters
          return ⟨option, ""⟩ :: others

/-- How an argument that begins with a hyphen is read: with the argument that
follows it, or without. -/
inductive Reading where
  | whole (occurrences : List Occurrence)
  | wanting (option : CommandOption)

def readOption (options : List CommandOption) (argument : String) :
    Except UsageProblem Reading :=
  let (name, given) := splitArgument argument
  match findLong? options name with
  | some option =>
      match option.kind.wantsArgument, given with
      | true, some value => Except.ok (Reading.whole [⟨option, value⟩])
      | true, none => Except.ok (Reading.wanting option)
      | false, some _ => Except.error (UsageProblem.argumentUnwanted name)
      | false, none => Except.ok (Reading.whole [⟨option, ""⟩])
  | none =>
      match argument.toList with
      | '-' :: '-' :: _ =>
          Except.error (UsageProblem.unknownOption name
            (Text.closeTo name (options.map CommandOption.name)))
      | _ :: letters => (readLetters options letters).map Reading.whole
      | [] => Except.ok (Reading.whole [])

/-- Whether an argument has the form of an option. -/
def isOption (argument : String) : Bool :=
  match argument.toList with
  | '-' :: _ :: _ => true
  | _ => false

/-- The options and operands among arguments.  Where operands end the options,
everything from the first operand on is an operand. -/
def readArguments (options : List CommandOption) (operandsEnd : Bool) :
    List String → Except UsageProblem Arguments
  | [] => Except.ok ⟨[], []⟩
  | argument :: rest =>
      if argument = "--" then Except.ok ⟨[], rest⟩
      else if isOption argument then
        match readOption options argument with
        | Except.error problem => Except.error problem
        | Except.ok (Reading.whole occurrences) => do
            let others ← readArguments options operandsEnd rest
            return { others with occurrences := occurrences ++ others.occurrences }
        | Except.ok (Reading.wanting option) =>
            match rest with
            | [] => Except.error (UsageProblem.argumentMissing option.name)
            | value :: following => do
                let others ← readArguments options operandsEnd following
                return { others with occurrences := ⟨option, value⟩ :: others.occurrences }
      else if operandsEnd then Except.ok ⟨[], argument :: rest⟩
      else do
        let others ← readArguments options operandsEnd rest
        return { others with operands := argument :: others.operands }

namespace Arguments

/-- The options that were given, in the order in which each came first. -/
def given (arguments : Arguments) : List CommandOption :=
  (arguments.occurrences.map Occurrence.option).eraseDups

def count (arguments : Arguments) (name : String) : Nat :=
  arguments.occurrences.countP fun occurrence => occurrence.option.name == name

/-- The argument that an option was given last. -/
def last? (arguments : Arguments) (name : String) : Option String :=
  ((arguments.occurrences.filter fun occurrence => occurrence.option.name == name).getLast?).map
    Occurrence.argument

/-- The first option among those given that shows something and ends the
program. -/
def eager? (arguments : Arguments) : Option OptionKind :=
  (arguments.given.map CommandOption.kind).find? OptionKind.isEager

end Arguments

/-- What is wrong with the argument of an option. -/
def unfit? (surroundings : Surroundings) (kind : OptionKind) (argument : String) :
    Option String :=
  match kind with
  | OptionKind.choice values =>
      if values.contains argument then none
      else
        some (Text.quoted argument ++ " is not one of " ++
          ", ".intercalate (values.map Text.quoted) ++ ".")
  | OptionKind.integer =>
      if (Text.integerOf? argument.toList).isSome then none
      else some (Text.quoted argument ++ " is not a valid integer.")
  | OptionKind.file =>
      match surroundings.entry? argument with
      | some (Entry.file _) => none
      | some Entry.folder => some ("File " ++ Text.quoted argument ++ " is a directory.")
      | some Entry.locked => some ("File " ++ Text.quoted argument ++ " is not readable.")
      | none => some ("File " ++ Text.quoted argument ++ " does not exist.")
  | _ => none

/-- Whether an argument is a path with a null character, which is no path at
all. -/
def isBroken (kind : OptionKind) (argument : String) : Bool :=
  kind == OptionKind.file && argument.contains '\x00'

/-- The first problem with the argument of an option. -/
def firstUnfit? (surroundings : Surroundings) (arguments : Arguments) :
    Option UsageProblem :=
  arguments.given.findSome? fun option =>
    (arguments.last? option.name).bind fun argument =>
      if isBroken option.kind argument then some UsageProblem.argumentBroken
      else
        (unfit? surroundings option.kind argument).map
          (UsageProblem.argumentUnfit option.name)

end UtilityCss.CommandLine

import UtilityCss.CommandLine.Command
import UtilityCss.Text.Blank

/-!
# Help

Help shows how a command is called, what it is for, and its options in two
columns.  The left column is thirty characters wide at most; whatever is wider
stands on a line of its own.
-/

namespace UtilityCss.CommandLine

/-- Spaces up to a width. -/
def spaces (width : Nat) : String :=
  String.ofList (List.replicate width ' ')

/-- The words in lines of a width, each as full as it can be; the line begun is
given, empty if none is. -/
def fillLines (width : Nat) (begun : String) : List String → List String
  | [] => if begun = "" then [] else [begun]
  | word :: words =>
      if begun = "" then fillLines width word words
      else if begun.length + 1 + word.length ≤ width then
        fillLines width (begun ++ " " ++ word) words
      else begun :: fillLines width word words

/-- A text in lines of a width. -/
def wrap (width : Nat) (text : String) : List String :=
  fillLines width "" ((Text.words text.toList).map String.ofList)

/-- The width of help. -/
def helpWidth : Nat := 78

/-- The greatest width of a left column. -/
def leftWidth : Nat := 30

/-- The lines of one row of two columns, the right one beginning at a place. -/
def rowLines (place : Nat) (row : String × String) : List String :=
  let right := wrap (helpWidth - place - 2) row.2
  let margin := spaces (place + 2)
  if row.1.length + 2 ≤ place then
    match right with
    | [] => ["  " ++ row.1]
    | first :: others =>
        ("  " ++ row.1 ++ spaces (place - row.1.length) ++ first) :: others.map (margin ++ ·)
  else
    ("  " ++ row.1) :: right.map (margin ++ ·)

/-- The rows of two columns. -/
def columns (rows : List (String × String)) : List String :=
  let widest := (rows.map fun row => row.1.length).foldl max 0
  rows.flatMap (rowLines (min widest leftWidth + 2))

/-- Paragraphs with empty lines between them, indented. -/
def paragraphs : List String → List String
  | [] => []
  | [only] => (wrap (helpWidth - 2) only).map ("  " ++ ·)
  | first :: others => (wrap (helpWidth - 2) first).map ("  " ++ ·) ++ "" :: paragraphs others

def optionRows (options : List CommandOption) : List (String × String) :=
  options.map fun option => (option.form, option.purpose)

/-- How a command is called; without a command, how the program is. -/
def usage : Option Command → String
  | some command =>
      "Usage: " ++ programName ++ " " ++ command.name ++ " [OPTIONS]" ++ command.operands
  | none => "Usage: " ++ programName ++ " [OPTIONS] COMMAND [ARGS]..."

/-- Where to find help. -/
def hint : Option Command → String
  | some command =>
      "Try '" ++ programName ++ " " ++ command.name ++ " --help' for help."
  | none => "Try '" ++ programName ++ " --help' for help."

/-- The help for a command, or for the program. -/
def help : Option Command → List String
  | some command =>
      [usage (some command), ""] ++ paragraphs command.purpose ++
        ["", "Options:"] ++ columns (optionRows command.options)
  | none =>
      [usage none, ""] ++ paragraphs [programPurpose] ++
        ["", "Options:"] ++ columns (optionRows programOptions) ++
        ["", "Commands:"] ++
        columns (commands.map fun command => (command.name, command.purpose.headD ""))

end UtilityCss.CommandLine

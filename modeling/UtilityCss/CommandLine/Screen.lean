import UtilityCss.Emoji
import UtilityCss.Text.Line
import UtilityCss.Text.Width

/-!
# Text on the screen

Text is shown in lines, without the control characters that would move the
cursor, and with spaces up to the next stop in place of every tab.  Emoji may be
given by name, except in a block of declarations that is coloured.
-/

namespace UtilityCss.CommandLine

/-- Bell, backspace, vertical tab, form feed and carriage return. -/
def isCursorControl (c : Char) : Bool :=
  [0x07, 0x08, 0x0B, 0x0C, 0x0D].contains c.toNat

def withoutControls (chars : List Char) : List Char :=
  chars.filter fun c => !isCursorControl c

/-! ## Stops by columns -/

/-- The columns between stops. -/
def stopDistance : Nat := 8

/-- A text from one stop up to the next, in place of the text with a tab behind
it. -/
def fillToStop (chars : List Char) : List Char :=
  let spaced := chars ++ [' ']
  let excess := Text.columns spaced % stopDistance
  if excess = 0 then spaced
  else spaced ++ List.replicate (stopDistance - excess) ' '

/-- The parts of a line, a tab between each two of them. -/
def fillParts : List (List Char) → List Char
  | [] => []
  | [last] => last
  | part :: next :: rest => fillToStop part ++ fillParts (next :: rest)

/-- A text as it is shown, line by line. -/
def laidOut (chars : List Char) : String :=
  let lines := Text.splitAt '\n' (withoutControls chars)
  String.ofList (List.intercalate ['\n'] (lines.map fun line => fillParts (Text.splitAt '\t' line)))

/-! ## Messages -/

/-- Whether what follows an opening bracket would make a style tag of it. -/
def makesTag : List Char → Bool
  | [] => false
  | c :: rest =>
      (('a' ≤ c && c ≤ 'z') || c == '#' || c == '/' || c == '@') &&
        (rest.dropWhile fun other => other != '[' && other != ']').head? == some ']'

/-- A message cut in front of its style tags and behind them; `inside` tells that
the text begins inside of one. -/
def cutAtTags : (inside : Bool) → List Char → List (List Char)
  | _, [] => [[]]
  | inside, c :: rest =>
      if inside && c == ']' then Text.joinHead c ([] :: cutAtTags false rest)
      else if !inside && c == '[' && makesTag rest then
        [] :: Text.joinHead c (cutAtTags true rest)
      else Text.joinHead c (cutAtTags inside rest)

/-- A backslash in front of a bracket is lost. -/
def bracketsAlone : List Char → List Char
  | [] => []
  | '\\' :: '[' :: rest => '[' :: bracketsAlone rest
  | c :: rest => c :: bracketsAlone rest

/-- A single backslash at the end of a message is shown twice. -/
def closeBackslash (chars : List Char) : List Char :=
  match chars.reverse with
  | '\\' :: '\\' :: _ => chars
  | '\\' :: _ => chars ++ ['\\']
  | _ => chars

/-- A message behind its label.  What looks like a style tag is shown as it is,
and so is a backslash in front of it. -/
def labelled (label message : String) : String :=
  let pieces := cutAtTags false (closeBackslash message.toList)
  laidOut (label.toList ++ ": ".toList ++
    pieces.flatMap fun piece => Emoji.draw (bracketsAlone piece))

/-! ## Blocks of declarations -/

/-- Spaces in place of tabs, every fourth character being a stop; `column` counts
from the last stop. -/
def expandTabs : (column : Nat) → List Char → List Char
  | _, [] => []
  | column, c :: rest =>
      if c = '\t' then List.replicate (4 - column % 4) ' ' ++ expandTabs 0 rest
      else if c = '\n' ∨ c = '\r' then c :: expandTabs 0 rest
      else c :: expandTabs (column + 1) rest

/-- A block of declarations as it is shown, coloured or plain. -/
def block (highlighting : Bool) (css : String) : String :=
  if highlighting then
    String.ofList (withoutControls (Text.unifyBreaks (expandTabs 0 css.toList)))
  else laidOut (Emoji.draw css.toList)

end UtilityCss.CommandLine

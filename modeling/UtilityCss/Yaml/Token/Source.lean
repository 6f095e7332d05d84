import UtilityCss.Text.Hexadecimal
import UtilityCss.Yaml.Token

/-!
# The text that tokens are read from

Reading keeps the place in the text, the indentation of the open blocks, the
number of open brackets, and the places where a key may turn out to have begun.
A key is recognized only by the colon after it, so its tokens are inserted at
the place that was noted.
-/

namespace UtilityCss.Yaml

/-- A place where a key may have begun. -/
structure KeyPlace where
  /-- The number of tokens in front of the place. -/
  token : Nat
  /-- Whether something else than a key would be an error. -/
  required : Bool
  index : Nat
  line : Nat
  column : Nat
  level : Int
deriving Repr

structure Source where
  rest : List Char
  index : Nat
  line : Nat
  column : Nat
  /-- The tokens so far, the latest first. -/
  tokens : List Token
  indent : Int
  indents : List Int
  level : Int
  keyAllowed : Bool
  places : List KeyPlace

/-- Reading that may stop with a problem and then leaves the tokens before it. -/
abbrev Reading := EStateM Problem Source

def Source.start (text : List Char) : Source where
  rest := text
  index := 0
  line := 0
  column := 0
  tokens := []
  indent := -1
  indents := []
  level := 0
  keyAllowed := true
  places := []

/-! ## Characters -/

def isBreak (c : Char) : Bool :=
  c == '\n' || c == '\x85' || c == '\u2028' || c == '\u2029'

/-- The end of the text or a character that passes the test. -/
def endOr (test : Char → Bool) : Option Char → Bool
  | none => true
  | some c => test c

def isSpaceOrBreak (c : Char) : Bool := c == ' ' || isBreak c

def isGapOrBreak (c : Char) : Bool := c == ' ' || c == '\t' || isBreak c

def isNameChar (c : Char) : Bool :=
  c.isAlphanum || c == '-' || c == '_'

/-- Characters that a text may hold at all. -/
def isAllowed (c : Char) : Bool :=
  let code := c.toNat
  code == 0x09 || code == 0x0A || code == 0x0D || (0x20 ≤ code && code ≤ 0x7E) ||
    code == 0x85 || (0xA0 ≤ code && code ≤ 0xFFFD) || 0x10000 ≤ code

/-! ## Steps -/

namespace Source

/-- The source behind its next character. -/
def skip (source : Source) : Source :=
  match source.rest with
  | [] => source
  | c :: rest =>
      if isBreak c then
        { source with
          rest := rest, index := source.index + 1, line := source.line + 1, column := 0 }
      else
        { source with
          rest := rest, index := source.index + 1,
          column := if c = '\uFEFF' then source.column else source.column + 1 }

def skipMany (source : Source) : Nat → Source
  | 0 => source
  | count + 1 => source.skip.skipMany count

end Source

def malformed (reason : String) : Reading α :=
  throw (Problem.malformed reason)

def peek : Reading (Option Char) :=
  return (← get).rest.head?

def peekAt (offset : Nat) : Reading (Option Char) :=
  return (← get).rest[offset]?

def skip (count : Nat) : Reading Unit :=
  modify fun source => source.skipMany count

/-- Takes the longest run of characters that pass the test. -/
def takeRun (test : Char → Bool) : Reading (List Char) := do
  let run := (← get).rest.takeWhile test
  skip run.length
  return run

/-- Takes a line break, written as a line feed unless it separates lines or
paragraphs; takes nothing if there is none. -/
def takeBreak : Reading (List Char) := do
  match ← peek with
  | some c =>
      if isBreak c then do
        skip 1
        return if c = '\n' ∨ c = '\x85' then ['\n'] else [c]
      else return []
  | none => return []

/-- Takes a comment up to its line break. -/
def skipComment : Reading Unit := do
  if (← peek) = some '#' then
    discard <| takeRun fun c => !isBreak c

def push (token : Token) : Reading Unit :=
  modify fun source => { source with tokens := token :: source.tokens }

/-- Inserts a token behind the given number of tokens. -/
def insertToken (place : Nat) (token : Token) : Reading Unit :=
  modify fun source =>
    { source with
      tokens := source.tokens.insertIdx (source.tokens.length - place) token }

def setKeyAllowed (allowed : Bool) : Reading Unit :=
  modify fun source => { source with keyAllowed := allowed }

/-- Whether the text goes on with three marks and then a gap or its end. -/
def atSeparator : Reading Bool := do
  let rest := (← get).rest
  let marks := rest.take 3
  return (marks == ['-', '-', '-'] || marks == ['.', '.', '.']) &&
    endOr isGapOrBreak rest[3]?

end UtilityCss.Yaml

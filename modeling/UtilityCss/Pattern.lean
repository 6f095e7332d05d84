import UtilityCss.Text.Letter
import UtilityCss.Text.DecimalDigit

/-!
# Patterns over characters

A pattern describes texts.  `accepts` reads one from the front of a text and
hands what is left to a test, trying every way of reading until the test holds;
so it holds exactly when some way of reading the pattern leaves a rest that
passes.  Letters written in a pattern stand for both cases.
-/

namespace UtilityCss

/-- A description of texts. -/
inductive Pattern where
  /-- One character that passes the test. -/
  | one (test : Char → Bool)
  /-- Any number of characters that pass the test, none included. -/
  | run (test : Char → Bool)
  /-- The empty text. -/
  | empty
  /-- The first pattern, then the second. -/
  | seq (first second : Pattern)
  /-- Either of two patterns. -/
  | alt (left right : Pattern)
  /-- The end of the text, or the place before a single final line feed. -/
  | ending

namespace Pattern

/-- Whether the rest passes after some number of leading characters, each of
which passes the test. -/
def acceptsRun (test : Char → Bool) (rest : List Char → Bool) : List Char → Bool
  | [] => rest []
  | head :: tail =>
      rest (head :: tail) || (test head && acceptsRun test rest tail)

/-- Whether the pattern can be read from the front of the text so that what is
left passes the test `rest`. -/
def accepts : Pattern → (List Char → Bool) → List Char → Bool
  | one test, rest, head :: tail => test head && rest tail
  | one _, _, [] => false
  | run test, rest, chars => acceptsRun test rest chars
  | empty, rest, chars => rest chars
  | seq first second, rest, chars =>
      first.accepts (second.accepts rest) chars
  | alt left right, rest, chars =>
      left.accepts rest chars || right.accepts rest chars
  | ending, rest, chars => (chars == [] || chars == ['\n']) && rest chars

/-- Whether the text starts with the pattern. -/
def matchesStart (pattern : Pattern) (chars : List Char) : Bool :=
  pattern.accepts (fun _ => true) chars

/-- Whether the whole text is described by the pattern. -/
def matchesAll (pattern : Pattern) (chars : List Char) : Bool :=
  pattern.accepts List.isEmpty chars

/-- Whether the pattern occurs somewhere in the text. -/
def occursIn (pattern : Pattern) : List Char → Bool
  | [] => pattern.matchesStart []
  | head :: tail =>
      pattern.matchesStart (head :: tail) || pattern.occursIn tail

/-! ## Building patterns -/

/-- The characters of the text one after another, its letters in either case. -/
def literal (text : String) : Pattern :=
  text.toList.foldr
    (fun expected rest => seq (one fun c => Text.foldLetter c == expected) rest) empty

/-- Any one of the listed literals. -/
def literals : List String → Pattern
  | [] => one fun _ => false
  | [text] => literal text
  | text :: others => alt (literal text) (literals others)

def optional (pattern : Pattern) : Pattern :=
  alt pattern empty

/-- One or more characters that pass the test. -/
def atLeastOne (test : Char → Bool) : Pattern :=
  seq (one test) (run test)

/-- At most the given number of characters that pass the test. -/
def upTo (test : Char → Bool) : Nat → Pattern
  | 0 => empty
  | most + 1 => optional (seq (one test) (upTo test most))

/-- Exactly the given number of characters that pass the test. -/
def times (test : Char → Bool) : Nat → Pattern
  | 0 => empty
  | count + 1 => seq (one test) (times test count)

end Pattern

end UtilityCss

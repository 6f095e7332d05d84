import UtilityCss.Pattern
import UtilityCss.Rejection
import UtilityCss.Text.Alphanumeric
import UtilityCss.Text.Blank

/-!
# The input guard

Three cheap checks run in order before any style is resolved: the length of
the text, the dangerous patterns one after another, and the number of special
characters.  The first check that fails decides.
-/

namespace UtilityCss.Guard

open Text

/-- Brackets of every kind. -/
def isSpecial (c : Char) : Bool :=
  c == '<' || c == '>' || c == '\x7b' || c == '\x7d' ||
    c == '(' || c == ')' || c == '[' || c == ']'

def specialCount (chars : List Char) : Nat :=
  chars.countP isSpecial

/-- An event handler attribute: `on`, at least one word character, any blanks,
and an equals sign. -/
def handlerAttribute : Pattern :=
  Pattern.seq (Pattern.literal "on")
    (Pattern.seq (Pattern.atLeastOne isWord)
      (Pattern.seq (Pattern.run isBlank) (Pattern.literal "=")))

/-- The dangerous patterns in the order in which they are tried, each with the
text by which it is reported. -/
def dangerousPatterns : List (String × Pattern) :=
  [
    ("<script", Pattern.literal "<script"),
    ("javascript:", Pattern.literal "javascript:"),
    ("on\\w+\\s*=", handlerAttribute),
    ("<iframe", Pattern.literal "<iframe"),
    ("<object", Pattern.literal "<object"),
    ("<embed", Pattern.literal "<embed")
  ]

/-- The first dangerous pattern that occurs in the text. -/
def dangerIn? (chars : List Char) : Option String :=
  (dangerousPatterns.find? fun entry => entry.2.occursIn chars).map Prod.fst

/-- The number of special characters an accepted text may hold. -/
def specialThreshold : Nat := 10

/-- Accepts the text or gives the first cause for rejecting it. -/
def check (limit : Int) (chars : List Char) : Except Rejection Unit :=
  if limit < chars.length then
    Except.error (Rejection.tooLong limit)
  else
    match dangerIn? chars with
    | some pattern => Except.error (Rejection.dangerous pattern)
    | none =>
        if specialThreshold < specialCount chars then
          Except.error (Rejection.crowded (specialCount chars) specialThreshold)
        else
          Except.ok ()

end UtilityCss.Guard

/-!
# Letter case

Patterns compare letters without regard to case.  Besides the basic Latin
capitals, four characters of other blocks count as basic letters: the long s,
the dotless i, the capital I with a dot, and the sign for kelvin.  Lower-casing
a text is a different map, under which the long s and the dotless i stay as
they are.
-/

namespace UtilityCss.Text

/-- The lower-case basic letter that a pattern takes the character for, or the
character itself. -/
def foldLetter (c : Char) : Char :=
  if c = '\u017F' then 's'
  else if c = '\u0130' ∨ c = '\u0131' then 'i'
  else if c = '\u212A' then 'k'
  else c.toLower

/-- A letter from a to z up to case. -/
def isLetter (c : Char) : Bool :=
  let folded := foldLetter c
  'a' ≤ folded && folded ≤ 'z'

/-- Lower case, exact for every text whose lower-case form is in the basic
Latin block: only the capitals, the kelvin sign and the dotted capital I have
such letters in their lower-case forms. -/
def lowerChar (c : Char) : List Char :=
  if c = '\u212A' then ['k']
  else if c = '\u0130' then ['i', '\u0307']
  else [c.toLower]

def lower (chars : List Char) : List Char :=
  chars.flatMap lowerChar

/-- Upper case, exact for every text whose upper-case form consists of single
basic Latin letters. -/
def upperChar (c : Char) : Char :=
  if c = '\u0131' then 'I'
  else if c = '\u017F' then 'S'
  else c.toUpper

def upper (chars : List Char) : List Char :=
  chars.map upperChar

/-- Two characters that differ at most in the case of a basic letter. -/
def SameButCase (left right : Char) : Prop :=
  left.toLower = right.toLower

end UtilityCss.Text

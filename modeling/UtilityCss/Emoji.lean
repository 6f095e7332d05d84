import UtilityCss.Emoji.Faces
import UtilityCss.Emoji.Flags
import UtilityCss.Emoji.Nature
import UtilityCss.Emoji.Objects
import UtilityCss.Emoji.People
import UtilityCss.Emoji.Supplements
import UtilityCss.Emoji.Symbols
import UtilityCss.Emoji.Travel
import UtilityCss.Text.Blank
import UtilityCss.Text.Hexadecimal
import UtilityCss.Text.LowerCase
import UtilityCss.Text.Search

/-!
# Emoji by name

An emoji may be written as its name between two colons.  Names of people and
hands may end with a skin tone, and every name may end with the variant in which
the emoji is to be drawn.  A name that belongs to no emoji stays as it is.
-/

namespace UtilityCss.Emoji

/-- The characters behind code points in hexadecimal digits, hyphens between
them. -/
def spelled (codes : List Char) : List Char :=
  (Text.splitAt '-' codes).map fun digits => Char.ofNat (Text.hexNumber digits)

/-- The characters of a name in a table whose words are names, a slash and code
points. -/
def lookUp (name : List Char) (table : String) : Option (List Char) :=
  (Text.words table.toList).findSome? fun word =>
    ((name ++ ['/']).isPrefixOf? word).map spelled

def tables : List String :=
  [faces, nature, objects, travel, supplements, symbols, flags, people]

/-- The skin tones by their names, with their code points. -/
def tones : List (String × Nat) :=
  [("light", 0x1F3FB), ("medium-light", 0x1F3FC), ("medium", 0x1F3FD),
    ("medium-dark", 0x1F3FE), ("dark", 0x1F3FF)]

/-- A tone stands behind the first character and replaces the variation selector
there. -/
def toned (tone : Char) : List Char → List Char
  | [] => []
  | person :: '\uFE0F' :: rest => person :: tone :: rest
  | person :: rest => person :: tone :: rest

/-- The front of a text that ends as is said. -/
def dropEnd? (ending chars : List Char) : Option (List Char) :=
  (ending.reverse.isPrefixOf? chars.reverse).map List.reverse

/-- The characters of an emoji. -/
def named? (name : List Char) : Option (List Char) :=
  match tables.findSome? (lookUp name) with
  | some chars => some chars
  | none =>
      tones.findSome? fun tone => do
        let person ← dropEnd? ("_" ++ tone.1 ++ "_skin_tone").toList name
        let chars ← lookUp person people
        return toned (Char.ofNat tone.2) chars

/-- The variants in which emoji are drawn, with their variation selectors. -/
def variants : List (String × List Char) :=
  [("-text", ['\uFE0E']), ("-emoji", ['\uFE0F'])]

/-- What stands between two colons, as an emoji if it names one in letters of
either case. -/
def drawn? (inner : List Char) : Option (List Char) :=
  let variant? := variants.findSome? fun variant =>
    (dropEnd? variant.1.toList inner).map fun name => (name, variant.2)
  let (name, selector) := variant?.getD (inner, [])
  (named? (Text.lowerCase name)).map fun chars => chars ++ selector

/-- The text whose parts are given, colons between them.  Two colons with no
blank in between belong together, whether they hold a name or not. -/
def drawParts : List (List Char) → List Char
  | [] => []
  | [last] => last
  | [before, last] => before ++ ':' :: last
  | before :: inner :: after :: rest =>
      if inner.any Text.isBlank then before ++ ':' :: drawParts (inner :: after :: rest)
      else before ++ (drawn? inner).getD (':' :: (inner ++ [':'])) ++ drawParts (after :: rest)

/-- A text with emoji in place of their names. -/
def draw (chars : List Char) : List Char :=
  drawParts (Text.splitAt ':' chars)

end UtilityCss.Emoji

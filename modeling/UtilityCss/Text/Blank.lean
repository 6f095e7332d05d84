/-!
# Blank characters

The blank characters separate class names and surround texts.  `trim` removes
them at both ends, `words` cuts a text into its maximal runs of other
characters, and `collapseBlanks` writes every run of blanks as one space.
-/

namespace UtilityCss.Text

/-- Spaces, tabs, line and paragraph separators, and the four information
separators. -/
def isBlank (c : Char) : Bool :=
  let code := c.toNat
  (0x09 ≤ code && code ≤ 0x0D) || (0x1C ≤ code && code ≤ 0x20) ||
    code == 0x85 || code == 0xA0 || code == 0x1680 ||
    (0x2000 ≤ code && code ≤ 0x200A) ||
    code == 0x2028 || code == 0x2029 || code == 0x202F ||
    code == 0x205F || code == 0x3000

def trimStart (chars : List Char) : List Char :=
  chars.dropWhile isBlank

def trimEnd (chars : List Char) : List Char :=
  (chars.reverse.dropWhile isBlank).reverse

def trim (chars : List Char) : List Char :=
  trimEnd (trimStart chars)

/-- Every blank becomes a space, except that one which follows a blank is left
out. -/
def collapseAux : (afterBlank : Bool) → List Char → List Char
  | _, [] => []
  | afterBlank, head :: tail =>
      if isBlank head then
        if afterBlank then collapseAux true tail else ' ' :: collapseAux true tail
      else
        head :: collapseAux false tail

/-- Every maximal run of blanks becomes a single space. -/
def collapseBlanks (chars : List Char) : List Char :=
  collapseAux false chars

/-- Whether the text goes on with a character that is not blank. -/
def startsWord : List Char → Bool
  | [] => false
  | head :: _ => !isBlank head

/-- Puts a character in front of the first word. -/
def joinHead (c : Char) : List (List Char) → List (List Char)
  | [] => [[c]]
  | word :: others => (c :: word) :: others

/-- The maximal runs of characters that are not blank, in order. -/
def words : List Char → List (List Char)
  | [] => []
  | head :: tail =>
      if isBlank head then words tail
      else if startsWord tail then joinHead head (words tail)
      else [head] :: words tail

/-- The words put one space apart. -/
def joinWords (parts : List (List Char)) : List Char :=
  List.intercalate [' '] parts

end UtilityCss.Text

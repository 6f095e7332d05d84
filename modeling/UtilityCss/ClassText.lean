import UtilityCss.Guard

/-!
# Texts of class names

The form of a text under which its conversion is remembered keeps the inner
blanks; the form that is resolved loses all brackets and keeps one space
between classes.
-/

namespace UtilityCss.ClassText

open Text

/-- Nothing to convert: no character but blanks. -/
def isBlankText (chars : List Char) : Bool :=
  (trim chars).isEmpty

/-- The key under which a conversion is remembered. -/
def key (chars : List Char) : List Char :=
  trim chars

/-- The text without brackets, its classes one space apart. -/
def sanitize (chars : List Char) : List Char :=
  trim (collapseBlanks (chars.filter fun c => !Guard.isSpecial c))

/-- The class names in a text, in order and with repetitions. -/
def tokens (text : String) : List String :=
  (words text.toList).map String.ofList

end UtilityCss.ClassText

import UtilityCss.Text.Blank
import UtilityCss.Text.DecimalDigit

/-!
# Integers in texts

A number may stand between blanks, carry a sign, and have single underscores
between its digits.  The information separators are not blank to a number.
-/

namespace UtilityCss.Text

def isNumberBlank (c : Char) : Bool :=
  isBlank c && !(0x1C ≤ c.toNat && c.toNat ≤ 0x1F)

/-- The text without the blanks around a number. -/
def trimNumber (chars : List Char) : List Char :=
  ((chars.dropWhile isNumberBlank).reverse.dropWhile isNumberBlank).reverse

/-- The value of digits in a base, each given by `digit?`, in which single
underscores may stand between digits. -/
def naturalOf? (base : Nat) (digit? : Char → Option Nat) :
    (value : Nat) → List Char → Option Nat
  | _, [] => none
  | value, [c] => (digit? c).map fun digit => value * base + digit
  | value, c :: '_' :: rest =>
      (digit? c).bind fun digit => naturalOf? base digit? (value * base + digit) rest
  | value, c :: next :: rest =>
      (digit? c).bind fun digit =>
        naturalOf? base digit? (value * base + digit) (next :: rest)

/-- A digit below the base: a decimal digit of any script, or a basic letter
from a for ten on. -/
def digitBelow? (base : Nat) (c : Char) : Option Nat :=
  let value? :=
    match digitValue? c with
    | some value => some value
    | none =>
        if 'a' ≤ c ∧ c ≤ 'z' then some (c.toNat - 'a'.toNat + 10)
        else if 'A' ≤ c ∧ c ≤ 'Z' then some (c.toNat - 'A'.toNat + 10)
        else none
  value?.filter (· < base)

/-- A sign in front of the text and what follows it. -/
def splitSign : List Char → Bool × List Char
  | '-' :: rest => (true, rest)
  | '+' :: rest => (false, rest)
  | chars => (false, chars)

def signed (negative : Bool) (magnitude : Nat) : Int :=
  if negative then -(magnitude : Int) else magnitude

/-- The most digits that are read or written as a number. -/
def mostDigits : Nat := 4300

/-- Whether a number has few enough digits to be written. -/
def isWritable (number : Int) : Bool :=
  decide (number.natAbs < Nat.pow 10 mostDigits)

/-- A decimal integer with digits of any script. -/
def integerOf? (chars : List Char) : Option Int :=
  let (negative, unsigned) := splitSign (trimNumber chars)
  if mostDigits < unsigned.countP isDecimalDigit then none
  else (naturalOf? 10 digitValue? 0 unsigned).map (signed negative)

end UtilityCss.Text

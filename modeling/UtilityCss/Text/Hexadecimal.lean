/-!
# Hexadecimal numbers
-/

namespace UtilityCss.Text

/-- The low hexadecimal digits of a number, as many as `count`. -/
def hexDigits (count value : Nat) : List Char :=
  let digits := Nat.toDigits 16 value
  List.replicate (count - digits.length) '0' ++ digits

def isHexChar (c : Char) : Bool :=
  c.isDigit || ('a' ≤ c && c ≤ 'f') || ('A' ≤ c && c ≤ 'F')

/-- The number that hexadecimal digits spell. -/
def hexNumber (digits : List Char) : Nat :=
  digits.foldl
    (fun value c =>
      value * 16 +
        (if c.isDigit then c.toNat - '0'.toNat
        else c.toLower.toNat - 'a'.toNat + 10))
    0

end UtilityCss.Text

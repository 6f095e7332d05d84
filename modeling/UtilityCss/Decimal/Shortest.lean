import UtilityCss.Decimal.Binary64

/-!
# The shortest decimal of a binary64 number

Among the decimals that round to a number, those with the fewest digits are
candidates, and the nearest of them is written.  Positional notation is used
from one ten-thousandth up to, but not including, ten to the sixteenth.
-/

namespace UtilityCss.Decimal

/-- Digits of a number with the place of its point: the value is
`0.d₁d₂… * 10 ^ point`. -/
structure Digits where
  digits : List Char
  point : Int
deriving DecidableEq, Repr

/-- The decimal digits of a natural, the empty list for zero. -/
def naturalDigits (value : Nat) : List Char :=
  if value = 0 then [] else Nat.toDigits 10 value

/-- The least `point` with the magnitude below `10 ^ point`. -/
def decimalPoint (numerator denominator : Nat) : Int :=
  let raised := numerator * Nat.pow 10 340 / denominator
  (naturalDigits raised).length - 340

/-- A decimal with the given number of digits that rounds to the number with
this mantissa and exponent, if there is one; of two the nearer. -/
def roundingDecimal? (mantissa : Nat) (exponent : Int) (count : Nat) (point : Int) :
    Option Nat :=
  let place : Int := point - count
  let below := if mantissa = Binary64.leastMantissa ∧ -1074 < exponent then 1 else 2
  let unit := Nat.pow 2 (exponent - 2).toNat * Nat.pow 10 (-place).toNat
  let value := 4 * mantissa * unit
  let lowest := (4 * mantissa - below) * unit
  let highest := (4 * mantissa + 2) * unit
  let step := Nat.pow 10 place.toNat * Nat.pow 2 (2 - exponent).toNat
  let lower := value / step
  let upper := lower + 1
  let inside (decimal : Nat) : Bool :=
    if mantissa % 2 = 0 then
      lowest ≤ decimal * step && decimal * step ≤ highest
    else
      lowest < decimal * step && decimal * step < highest
  match inside lower, inside upper with
  | true, true =>
      let down := value - lower * step
      let up := upper * step - value
      if down < up then some lower
      else if up < down then some upper
      else some (lower + lower % 2)
  | true, false => some lower
  | false, true => some upper
  | false, false => none

/-- The first count of digits for which a decimal rounds to the number. -/
def shortestFrom (mantissa : Nat) (exponent : Int) (point : Int) :
    (count : Nat) → (remaining : Nat) → Digits
  | count, 0 =>
      ⟨naturalDigits ((roundingDecimal? mantissa exponent count point).getD 0), point⟩
  | count, remaining + 1 =>
      match roundingDecimal? mantissa exponent count point with
      | some decimal =>
          let written := naturalDigits decimal
          let trimmed := (written.reverse.dropWhile (· == '0')).reverse
          ⟨trimmed, point + (written.length - count : Int)⟩
      | none => shortestFrom mantissa exponent point (count + 1) remaining

/-- The shortest digits of a positive finite number. -/
def shortestDigits (mantissa : Nat) (exponent : Int) : Digits :=
  let (numerator, denominator) := Binary64.ratio mantissa exponent
  shortestFrom mantissa exponent (decimalPoint numerator denominator) 1 20

/-- How a number in scientific notation shows its exponent: a sign and at least
two digits. -/
def exponentText (exponent : Int) : List Char :=
  let digits := Nat.toDigits 10 exponent.natAbs
  (if exponent < 0 then '-' else '+') ::
    (if digits.length < 2 then '0' :: digits else digits)

/-- Digits written out, positionally if the leading digit stands between the
fourth place behind the point and the sixteenth in front of it. -/
def Digits.text (number : Digits) : List Char :=
  let leading := number.point - 1
  if leading < -4 ∨ 16 ≤ leading then
    match number.digits with
    | [] => ['0']
    | [single] => single :: 'e' :: exponentText leading
    | first :: others => first :: '.' :: (others ++ 'e' :: exponentText leading)
  else if number.point ≤ 0 then
    ['0', '.'] ++ List.replicate (-number.point).toNat '0' ++ number.digits
  else
    let before := number.digits.take number.point.toNat
    let filled := before ++ List.replicate (number.point.toNat - before.length) '0'
    let after := number.digits.drop number.point.toNat
    filled ++ '.' :: (if after.isEmpty then ['0'] else after)

/-- The text of a number: its shortest digits, or a word if it has none. -/
def Binary64.text : Binary64 → String
  | finite negative mantissa exponent =>
      let sign := if negative then ['-'] else []
      let digits :=
        if mantissa = 0 then ['0', '.', '0'] else (shortestDigits mantissa exponent).text
      String.ofList (sign ++ digits)
  | infinite negative => if negative then "-inf" else "inf"
  | undefined => "nan"

/-- A finite number with the given count of places behind the point, a half
going to the even neighbour. -/
def Binary64.fixedText (places : Nat) : Binary64 → String
  | finite negative mantissa exponent =>
      let (numerator, denominator) := ratio mantissa exponent
      let units := roundDiv (numerator * Nat.pow 10 places) denominator
      let digits := Nat.toDigits 10 units
      let padded := List.replicate (places + 1 - digits.length) '0' ++ digits
      let split := padded.length - places
      String.ofList ((if negative then ['-'] else []) ++
        padded.take split ++ '.' :: padded.drop split)
  | other => other.text

end UtilityCss.Decimal

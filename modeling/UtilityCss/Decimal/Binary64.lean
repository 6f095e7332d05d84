/-!
# Binary64 numbers

A binary64 number is kept as its exact value: a mantissa below `2 ^ 53` times a
power of two that is at least `-1074`.  All arithmetic is done on exact ratios
of naturals and rounded once, to the nearest number and on a tie to the even
mantissa.
-/

namespace UtilityCss.Decimal

/-- A signed finite number, a signed infinity, or no number. -/
inductive Binary64 where
  | finite (negative : Bool) (mantissa : Nat) (exponent : Int)
  | infinite (negative : Bool)
  | undefined
deriving DecidableEq, Repr

/-- The quotient rounded to the nearest natural, a half going to the even
neighbour. -/
def roundDiv (numerator denominator : Nat) : Nat :=
  let quotient := numerator / denominator
  let rest := numerator % denominator
  if denominator < 2 * rest then quotient + 1
  else if 2 * rest = denominator then quotient + quotient % 2
  else quotient

/-- `base ^ exponent` moved to the numerator or the denominator of a ratio. -/
def scaleRatio (base numerator denominator : Nat) (exponent : Int) : Nat × Nat :=
  if 0 ≤ exponent then
    (numerator * Nat.pow base exponent.toNat, denominator)
  else
    (numerator, denominator * Nat.pow base (-exponent).toNat)

namespace Binary64

/-- The fifty-third power of two, below which every mantissa is. -/
def mantissaBound : Nat := 9007199254740992

/-- The least mantissa of a number that is not among the smallest. -/
def leastMantissa : Nat := 4503599627370496

def zeroNumber (negative : Bool) : Binary64 :=
  finite negative 0 (-1074)

/-- The nearest number to a ratio of naturals. -/
def ofRatio (negative : Bool) (numerator denominator : Nat) : Binary64 :=
  if numerator = 0 then
    zeroNumber negative
  else
    let guess : Int := (Nat.log2 numerator : Int) - Nat.log2 denominator - 52
    let atGuess := scaleRatio 2 numerator denominator (-guess)
    let exact := if atGuess.1 / atGuess.2 < leastMantissa then guess - 1 else guess
    let exponent := max exact (-1074)
    let scaled := scaleRatio 2 numerator denominator (-exponent)
    let rounded := roundDiv scaled.1 scaled.2
    let mantissa := if rounded = mantissaBound then leastMantissa else rounded
    let place := if rounded = mantissaBound then exponent + 1 else exponent
    if 971 < place then infinite negative
    else if mantissa = 0 then zeroNumber negative
    else finite negative mantissa place

/-- The magnitude of a finite number as a ratio. -/
def ratio (mantissa : Nat) (exponent : Int) : Nat × Nat :=
  scaleRatio 2 mantissa 1 exponent

/-- The nearest number to `mantissa * 10 ^ exponent`.  Exponents that are out
of reach for the number of digits are cut off before any power is taken. -/
def ofDecimal (negative : Bool) (mantissa : Nat) (exponent : Int) : Binary64 :=
  if mantissa = 0 then zeroNumber negative
  else
    let magnitude := exponent + (Nat.log2 mantissa : Int) / 3
    if 400 < magnitude then
      if 400 < exponent + (Nat.log2 mantissa : Int) / 4 then infinite negative
      else
        let scaled := scaleRatio 10 mantissa 1 exponent
        ofRatio negative scaled.1 scaled.2
    else if magnitude < -400 then zeroNumber negative
    else
      let scaled := scaleRatio 10 mantissa 1 exponent
      ofRatio negative scaled.1 scaled.2

def ofNat (value : Nat) : Binary64 :=
  ofRatio false value 1

/-- The integer a number is equal to, if it is equal to one. -/
def toInt? : Binary64 → Option Int
  | finite negative mantissa exponent =>
      let (numerator, denominator) := ratio mantissa exponent
      if numerator % denominator = 0 then
        let magnitude : Int := (numerator / denominator : Nat)
        some (if negative then -magnitude else magnitude)
      else
        none
  | _ => none

def isFinite : Binary64 → Bool
  | finite _ _ _ => true
  | _ => false

/-- Whether two numbers have the same value; zero has one value. -/
def sameValue : Binary64 → Binary64 → Bool
  | undefined, _ => false
  | _, undefined => false
  | finite _ 0 _, finite _ 0 _ => true
  | left, right => left == right

/-- Sign and magnitude turned into a number after exact arithmetic on ratios. -/
def ofSigned (numerator : Int) (denominator : Nat) : Binary64 :=
  ofRatio (decide (numerator < 0)) numerator.natAbs denominator

/-- A finite number as a signed ratio. -/
def signedRatio (negative : Bool) (mantissa : Nat) (exponent : Int) : Int × Nat :=
  let (numerator, denominator) := ratio mantissa exponent
  (if negative then -(numerator : Int) else numerator, denominator)

def negate : Binary64 → Binary64
  | finite negative mantissa exponent => finite (!negative) mantissa exponent
  | infinite negative => infinite (!negative)
  | undefined => undefined

def add : Binary64 → Binary64 → Binary64
  | undefined, _ => undefined
  | _, undefined => undefined
  | infinite left, infinite right => if left = right then infinite left else undefined
  | infinite left, _ => infinite left
  | _, infinite right => infinite right
  | finite leftSign leftMantissa leftExponent, finite rightSign rightMantissa rightExponent =>
      if leftMantissa = 0 ∧ rightMantissa = 0 then
        zeroNumber (leftSign && rightSign)
      else
        let (a, b) := signedRatio leftSign leftMantissa leftExponent
        let (c, d) := signedRatio rightSign rightMantissa rightExponent
        ofSigned (a * d + c * b) (b * d)

/-- The product of a number with a natural that is not zero. -/
def scale (factor : Nat) : Binary64 → Binary64
  | finite negative mantissa exponent =>
      let (numerator, denominator) := ratio mantissa exponent
      ofRatio negative (numerator * factor) denominator
  | other => other

end Binary64

end UtilityCss.Decimal

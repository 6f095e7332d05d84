import UtilityCss.Decimal.Binary64
import UtilityCss.Text.Integer

/-!
# Reading binary64 numbers

A number is written with digits of any script, perhaps a point and an exponent,
or as one of the words for infinity and for no number.
-/

namespace UtilityCss.Decimal

open Text

/-- The digits in front of a text with what follows them. -/
def takeNumerals : List Char → List Nat × List Char
  | [] => ([], [])
  | c :: rest =>
      match digitValue? c with
      | none => ([], c :: rest)
      | some digit =>
          let (digits, after) := takeNumerals rest
          (digit :: digits, after)

def numeralsValue (digits : List Nat) : Nat :=
  digits.foldl (fun value digit => value * 10 + digit) 0

/-- The exponent after a number, if the rest is one. -/
def exponentOf? : List Char → Option Int
  | [] => some 0
  | mark :: rest =>
      if mark = 'e' ∨ mark = 'E' then
        let (negative, unsigned) := splitSign rest
        match takeNumerals unsigned with
        | ([], _) => none
        | (digits, []) => some (signed negative (numeralsValue digits))
        | _ => none
      else none

/-- A number without a sign. -/
def unsignedOf? (negative : Bool) (chars : List Char) : Option Binary64 :=
  let (whole, afterWhole) := takeNumerals chars
  let (places, afterPlaces) :=
    match afterWhole with
    | '.' :: rest => takeNumerals rest
    | other => ([], other)
  if whole.isEmpty ∧ places.isEmpty then none
  else
    (exponentOf? afterPlaces).map fun exponent =>
      Binary64.ofDecimal negative (numeralsValue (whole ++ places))
        (exponent - places.length)

/-- The number that a text spells, if it spells one. -/
def Binary64.ofText? (text : List Char) : Option Binary64 :=
  let (negative, unsigned) := splitSign (trimNumber text)
  let lowered := String.ofList (unsigned.map Char.toLower)
  if lowered = "inf" ∨ lowered = "infinity" then some (Binary64.infinite negative)
  else if lowered = "nan" then some Binary64.undefined
  else unsignedOf? negative unsigned

end UtilityCss.Decimal

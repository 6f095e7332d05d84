import UtilityCss.Atom

/-!
# The order of numbers in a set

A set has no order of its own.  Numbers in a set are shown in the order of their
places in a table, whose size is a power of two.  The place of a number follows
from its residue, and a number whose place is taken goes to another one, so that
small numbers come in ascending order.
-/

namespace UtilityCss.Atom

open Decimal

/-- The prime by which residues are taken, one less than the sixty-first power of
two. -/
def residuePrime : Nat := 2305843009213693951

/-- The residue of a power of two; the exponent counts only up to a multiple of
sixty-one. -/
def powerResidue (exponent : Int) : Nat :=
  Nat.pow 2 (exponent % 61).toNat

/-- The residue of an amount under a sign, where minus one is left out. -/
def signedResidue (negative : Bool) (amount : Nat) : Int :=
  let residue : Int := if negative then -(amount : Int) else amount
  if residue = -1 then -2 else residue

/-- The residue of a number; equal numbers have the same. -/
def residue? : Atom → Option Int
  | bool truth => some (if truth then 1 else 0)
  | int number => some (signedResidue (number < 0) (number.natAbs % residuePrime))
  | float (Binary64.finite negative mantissa exponent) =>
      some (signedResidue negative (mantissa * powerResidue exponent % residuePrime))
  | float (Binary64.infinite negative) => some (signedResidue negative 314159)
  | _ => none

/-- The number that places are taken from, in sixty-four bits. -/
def placeNumber (residue : Int) : Nat :=
  (residue % 18446744073709551616).toNat

/-- The size of a table for so many members. -/
def tableSize (count : Nat) : Nat :=
  if count < 5 then 8 else Nat.nextPowerOfTwo (2 * count + 1)

/-- The places that are tried from one on: ten in a row, if there are as many. -/
def neighbours (size place : Nat) : List Nat :=
  if place + 9 < size then (List.range 10).map (place + ·) else [place]

/-- The first place that is not taken; each leap to another part of the table uses
up five bits of the number, and later ones reach every place. -/
def freePlace (taken : List Nat) (size : Nat) : (fuel number place : Nat) → Nat
  | 0, _, place => place
  | fuel + 1, number, place =>
      match (neighbours size place).find? fun other => !taken.contains other with
      | some free => free
      | none =>
          let left := number / 32
          freePlace taken size fuel left ((place * 5 + 1 + left) % size)

/-- The places of numbers that enter a table one after another. -/
def places (size : Nat) : (taken : List Nat) → List Int → List Nat
  | _, [] => []
  | taken, residue :: rest =>
      let number := placeNumber residue
      let place := freePlace taken size (size + 16) number (number % size)
      place :: places size (place :: taken) rest

/-- The members of a set as they are shown.  Members other than numbers stay in
the order in which they came. -/
def arranged (members : List Atom) : List Atom :=
  match members.mapM residue? with
  | none => members
  | some residues =>
      let seated := (places (tableSize members.length) [] residues).zip members
      (seated.mergeSort fun left right => decide (left.1 ≤ right.1)).map fun seat => seat.2

end UtilityCss.Atom

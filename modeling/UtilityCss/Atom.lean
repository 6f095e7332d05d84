import UtilityCss.Decimal.Binary64
import UtilityCss.Moment

/-!
# Atoms

An atom is a value without parts.  Atoms are the keys of maps, and two keys are
the same when they are equal as numbers, as moments or as texts: the number
one, the fraction `1.0` and the truth value `true` are one key, and so are two
moments that say the same point of time in different zones.
-/

namespace UtilityCss

open Decimal

inductive Atom where
  | null
  | bool (truth : Bool)
  | int (number : Int)
  | float (number : Binary64)
  /-- No number; the mark tells one such value from another. -/
  | noNumber (mark : Nat)
  | text (chars : String)
  /-- A text with code points that stand for no character. -/
  | codes (points : List Nat)
  | moment (time : Moment)
  | bytes (octets : List Nat)
deriving DecidableEq, Repr

namespace Atom

/-- The integer that an atom counts as, if it is a number without fraction. -/
def integer? : Atom → Option Int
  | bool truth => some (if truth then 1 else 0)
  | int number => some number
  | float number => number.toInt?
  | _ => none

def isText : Atom → Bool
  | text _ => true
  | codes _ => true
  | _ => false

/-- Equality of keys. -/
def sameKey (left right : Atom) : Bool :=
  match left.integer?, right.integer? with
  | some leftNumber, some rightNumber => leftNumber == rightNumber
  | none, none =>
      match left, right with
      | float leftNumber, float rightNumber => leftNumber.sameValue rightNumber
      | moment leftTime, moment rightTime => leftTime.sameTime rightTime
      | _, _ => left == right
  | _, _ => false

/-- Whether an atom counts as given: neither null, false, zero nor empty. -/
def isTruthy : Atom → Bool
  | null => false
  | bool truth => truth
  | int number => number != 0
  | float number =>
      match number with
      | Binary64.finite _ mantissa _ => mantissa != 0
      | _ => true
  | noNumber _ => true
  | text chars => chars != ""
  | codes points => !points.isEmpty
  | moment _ => true
  | bytes octets => !octets.isEmpty

end Atom

/-- Maps of values compare their keys as numbers, moments and texts. -/
instance (priority := high) atomKeyBEq : BEq Atom := ⟨Atom.sameKey⟩

end UtilityCss

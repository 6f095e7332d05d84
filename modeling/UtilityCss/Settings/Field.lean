import UtilityCss.Settings.Numeral
import UtilityCss.Value

/-!
# Reading settings leniently

A field that wants an integer or a truth value also takes values that plainly
stand for one: a fraction without a fractional part, or a text that spells a
number.  Each value that does not fit has one problem.
-/

namespace UtilityCss

open Decimal

/-- What is wrong with a value. -/
inductive Problem where
  | integerType
  | integerText
  | integerSize
  | fractional
  | notFinite
  | notAbove
  | belowBound
  | truthType
  | truthText
  | mapType
  | unwritable
  | noCharacters
deriving DecidableEq, Repr

def Problem.label : Problem → String
  | Problem.integerType => "int_type"
  | Problem.integerText => "int_parsing"
  | Problem.integerSize => "int_parsing_size"
  | Problem.fractional => "int_from_float"
  | Problem.notFinite => "finite_number"
  | Problem.notAbove => "greater_than"
  | Problem.belowBound => "greater_than_equal"
  | Problem.truthType => "bool_type"
  | Problem.truthText => "bool_parsing"
  | Problem.mapType => "dict_type"
  | Problem.unwritable => "value_error"
  | Problem.noCharacters => "string_unicode"

/-- A problem with the place where it was found. -/
structure Complaint where
  place : List String
  problem : Problem
deriving DecidableEq, Repr

/-- All complaints about one record, in the order of its fields. -/
structure Invalid where
  subject : String
  complaints : List Complaint
deriving DecidableEq, Repr

/-- The line that opens a report. -/
def Invalid.headline (invalid : Invalid) : String :=
  let count := invalid.complaints.length
  toString count ++ " validation error" ++ (if count = 1 then "" else "s") ++
    " for " ++ invalid.subject

namespace Field

def integerOfText (text : String) : Except Problem Int :=
  match Numeral.read text.toList with
  | Numeral.Verdict.number value => Except.ok value
  | Numeral.Verdict.tooLong => Except.error Problem.integerSize
  | Numeral.Verdict.noNumber => Except.error Problem.integerText

/-- The text that bytes spell. -/
def textOfBytes? (octets : List Nat) : Option String :=
  String.fromUTF8? (octets.map Nat.toUInt8).toByteArray

/-- The sixty-third power of two, which bounds whole numbers. -/
def bound : Nat := 9223372036854775808

/-- A whole number given with a fraction. -/
def integerOfFloat (number : Binary64) : Except Problem Int :=
  if !number.isFinite then Except.error Problem.notFinite
  else
    match number.toInt? with
    | none => Except.error Problem.fractional
    | some value =>
        if value.natAbs < bound then Except.ok value
        else Except.error Problem.integerSize

def integer : Value → Except Problem Int
  | Value.atom (Atom.bool truth) => Except.ok (if truth then 1 else 0)
  | Value.atom (Atom.int number) => Except.ok number
  | Value.atom (Atom.float number) => integerOfFloat number
  | Value.atom (Atom.noNumber _) => Except.error Problem.notFinite
  | Value.atom (Atom.text chars) => integerOfText chars
  | Value.atom (Atom.codes _) => Except.error Problem.noCharacters
  | Value.atom (Atom.bytes octets) =>
      match textOfBytes? octets with
      | some chars => integerOfText chars
      | none => Except.error Problem.integerText
  | _ => Except.error Problem.integerType

def falseWords : List String := ["0", "off", "f", "false", "n", "no"]

def trueWords : List String := ["1", "on", "t", "true", "y", "yes"]

def truthOfText (text : String) : Except Problem Bool :=
  let folded := String.ofList (text.toList.map Char.toLower)
  if falseWords.contains folded then Except.ok false
  else if trueWords.contains folded then Except.ok true
  else Except.error Problem.truthText

/-- A number as a truth value; a whole number within bounds is close to one. -/
def truthOfNumber (number : Int) : Except Problem Bool :=
  if number = 0 then Except.ok false
  else if number = 1 then Except.ok true
  else Except.error Problem.truthText

def truth : Value → Except Problem Bool
  | Value.atom (Atom.bool value) => Except.ok value
  | Value.atom (Atom.int number) =>
      if -(bound : Int) ≤ number ∧ number < bound then truthOfNumber number
      else Except.error Problem.truthType
  | Value.atom (Atom.float number) =>
      match integerOfFloat number with
      | Except.ok whole => truthOfNumber whole
      | Except.error _ => Except.error Problem.truthType
  | Value.atom (Atom.text chars) => truthOfText chars
  | Value.atom (Atom.codes _) => Except.error Problem.noCharacters
  | Value.atom (Atom.bytes octets) =>
      match textOfBytes? octets with
      | some chars => truthOfText chars
      | none => Except.error Problem.truthText
  | _ => Except.error Problem.truthType

/-- The given value read, or the default when the field is not given. -/
def orDefault (read : Value → Except Problem α) (fallback : α) :
    Option Value → Except Problem α
  | none => Except.ok fallback
  | some value => read value

/-- The complaint of a field, if it has one. -/
def complaint? (name : String) : Except Problem α → Option Complaint
  | Except.ok _ => none
  | Except.error problem => some ⟨[name], problem⟩

end Field

end UtilityCss

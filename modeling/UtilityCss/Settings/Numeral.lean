import UtilityCss.Text.Integer

/-!
# Integers spelled in settings

A setting may spell an integer with blanks around it, a plus, zeros in front,
single underscores between digits, and zeros behind a point.  All of that is
cleaned away, and what is left has to be a plain decimal.
-/

namespace UtilityCss.Numeral

/-- What a text says about an integer. -/
inductive Verdict where
  | number (value : Int)
  | tooLong
  | noNumber
deriving DecidableEq, Repr

def valueOf (digits : List Char) : Nat :=
  digits.foldl (fun value c => value * 10 + (c.toNat - '0'.toNat)) 0

/-- A decimal: perhaps a minus, then digits without a zero in front of others. -/
def decimal (chars : List Char) : Verdict :=
  let (negative, unsigned) :=
    match chars with
    | '-' :: rest => (true, rest)
    | _ => (false, chars)
  let digits := unsigned.takeWhile Char.isDigit
  match digits with
  | [] => Verdict.noNumber
  | '0' :: _ :: _ => Verdict.noNumber
  | _ =>
      if Text.mostDigits < digits.length then Verdict.tooLong
      else if digits.length < unsigned.length then Verdict.noNumber
      else Verdict.number (Text.signed negative (valueOf digits))

/-- The text without a plus in front, which no minus may follow. -/
def withoutPlus? : List Char → Option (List Char)
  | '+' :: '-' :: _ => none
  | '+' :: rest => some rest
  | chars => some chars

/-- What follows zeros and underscores, the last of which is given.  A point
takes it along, and where nothing follows it stays by itself. -/
def behindZeros? (last : Char) : List Char → Option (List Char)
  | [] => some [last]
  | c :: rest =>
      if c = '0' ∨ c = '_' then behindZeros? c rest
      else if c.isDigit ∨ c = '-' then some (c :: rest)
      else if c = '.' then some (last :: c :: rest)
      else none

/-- The text without zeros in front. -/
def withoutZeros? : List Char → Option (List Char)
  | [] => none
  | c :: rest =>
      if c = '0' then behindZeros? c rest
      else if c.isDigit ∨ c = '-' then some (c :: rest)
      else none

/-- The text without a point and the zeros behind it. -/
def withoutPlaces (chars : List Char) : List Char :=
  match chars.dropWhile (· != '.') with
  | _ :: place :: places =>
      if (place :: places).all (· == '0') then chars.takeWhile (· != '.') else chars
  | _ => chars

/-- Whether two underscores stand next to each other. -/
def hasDoubleUnderscore : List Char → Bool
  | '_' :: '_' :: _ => true
  | _ :: rest => hasDoubleUnderscore rest
  | [] => false

/-- The text without single underscores between other characters. -/
def withoutUnderscores? (chars : List Char) : Option (List Char) :=
  if chars.head? = some '_' ∨ chars.getLast? = some '_' ∨ hasDoubleUnderscore chars then none
  else some (chars.filter (· != '_'))

def cleaned? (chars : List Char) : Option (List Char) := do
  let plain ← withoutPlus? (Text.trimNumber chars)
  withoutUnderscores? (withoutPlaces (← withoutZeros? plain))

/-- What a text in a setting says about an integer.  Too many digits are noticed
before anything is cleaned away. -/
def read (chars : List Char) : Verdict :=
  match decimal (Text.trimNumber chars), cleaned? chars with
  | Verdict.tooLong, _ => Verdict.tooLong
  | _, some plain => decimal plain
  | _, none => Verdict.noNumber

end UtilityCss.Numeral

import UtilityCss.Decimal.Reading
import UtilityCss.Text.LowerCase
import UtilityCss.Text.Search
import UtilityCss.Value.Text
import UtilityCss.Yaml.Implicit

/-!
# Values of scalars

The value of a scalar by its tag.  A text of the right form may still have no
value, as a date that is on no calendar; then the error that says so is given.
-/

namespace UtilityCss.Yaml

open Decimal

def unusable (name message : String) : Except Problem α :=
  Except.error (Problem.unusable name message)

/-! ## Numbers -/

/-- The part of a number behind the mark of its base, if it has the mark. -/
def withoutBaseMark (base : Nat) (chars : List Char) : List Char :=
  let marks :=
    if base = 2 then ['b', 'B'] else if base = 8 then ['o', 'O']
    else if base = 16 then ['x', 'X'] else []
  match chars with
  | '0' :: mark :: rest => if marks.contains mark then rest else chars
  | _ => chars

/-- What is said about a text that is no whole number; the quoted text is shown up
to a length. -/
def noWholeNumber (base : Nat) (quoted : String) : String :=
  "invalid literal for int() with base " ++ toString base ++ ": " ++
    String.ofList (quoted.toList.take 200)

/-- What is said about a number with too many digits to be read. -/
def tooManyDigits (count : Nat) : String :=
  "Exceeds the limit (" ++ toString Text.mostDigits ++
    " digits) for integer string conversion: value has " ++ toString count ++
    " digits; use sys.set_int_max_str_digits() to increase the limit"

/-- A whole number in a base.  Only bases that are a power of two take any
number of digits. -/
def wholeNumber (base : Nat) (chars : List Char) : Except Problem Int :=
  let (negative, unsigned) := Text.splitSign (Text.trimNumber chars)
  let digits := withoutBaseMark base unsigned
  let count := (unsigned.takeWhile Text.isDecimalDigit).length
  if base = 10 ∧ Text.mostDigits < count then unusable "ValueError" (tooManyDigits count)
  else
    match Text.naturalOf? base (Text.digitBelow? base) 0 digits with
    | some magnitude => Except.ok (Text.signed negative magnitude)
    | none => unusable "ValueError" (noWholeNumber base (Text.quoted (String.ofList chars)))

/-- The value of parts in base sixty. -/
def sixtyValue (parts : List Int) : Int :=
  parts.foldl (fun value part => value * 60 + part) 0

def indexProblem : Except Problem α :=
  unusable "IndexError" "string index out of range"

/-- A whole number in the base that its form tells. -/
def intOf (text : List Char) : Except Problem Int := do
  let chars := text.filter (· != '_')
  if chars.isEmpty then indexProblem
  else
    let (negative, unsigned) := Text.splitSign chars
    let magnitude ←
      match unsigned with
      | [] => indexProblem
      | ['0'] => pure 0
      | '0' :: 'b' :: rest => wholeNumber 2 rest
      | '0' :: 'x' :: rest => wholeNumber 16 rest
      | '0' :: _ => wholeNumber 8 unsigned
      | _ =>
          if unsigned.contains ':' then
            return (if negative then -1 else 1) *
              sixtyValue (← (Text.splitAt ':' unsigned).mapM (wholeNumber 10))
          else wholeNumber 10 unsigned
    return if negative then -magnitude else magnitude

def noFraction (quoted : String) : String :=
  "could not convert string to float: " ++ quoted

def fractionNumber (chars : List Char) : Except Problem Binary64 :=
  match Binary64.ofText? chars with
  | some number => Except.ok number
  | none => unusable "ValueError" (noFraction (Text.quoted (String.ofList chars)))

/-- The sum of parts in base sixty, the last part first.  The factor of a part,
its product and the sum are rounded one after another, and the factor has to be
within reach. -/
def sixtySum : (sum : Binary64) → (factor : Nat) → List Binary64 → Except Problem Binary64
  | sum, _, [] => Except.ok sum
  | sum, factor, part :: parts =>
      match (Binary64.ofNat factor).toInt? with
      | some rounded =>
          sixtySum (sum.add (part.scale rounded.toNat)) (factor * 60) parts
      | none => unusable "OverflowError" "int too large to convert to float"

/-- A number with a fraction; the mark is for a value that is no number, unless
the text has the usual form of that. -/
def floatOf (text : List Char) (mark : Nat) : Except Problem Atom := do
  let chars := Text.lowerCase (text.filter (· != '_'))
  if chars.isEmpty then indexProblem
  else
    let (negative, unsigned) := Text.splitSign chars
    if unsigned = ['.', 'n', 'a', 'n'] then return Atom.noNumber 0
    else
      let magnitude ←
        if unsigned = ['.', 'i', 'n', 'f'] then pure (Binary64.infinite false)
        else if unsigned.contains ':' then do
          let parts ← (Text.splitAt ':' unsigned).mapM fractionNumber
          sixtySum (Binary64.zeroNumber false) 1 parts.reverse
        else fractionNumber unsigned
      match magnitude with
      | Binary64.undefined => return Atom.noNumber (mark + 1)
      | number => return Atom.float (if negative then number.negate else number)

/-! ## Truth values -/

def boolOf (text : List Char) : Except Problem Bool :=
  let lowered := String.ofList (Text.lowerCase text)
  if ["yes", "true", "on"].contains lowered then Except.ok true
  else if ["no", "false", "off"].contains lowered then Except.ok false
  else unusable "KeyError" (Text.quoted lowered)

/-! ## Dates and times -/

def basicNumber (digits : List Char) : Nat :=
  digits.foldl (fun value c => value * 10 + (c.toNat - '0'.toNat)) 0

/-- A number of at least and at most so many digits, and what follows. -/
def takeNumber? (least most : Nat) (chars : List Char) : Option (Nat × List Char) :=
  let digits := (chars.take most).takeWhile Char.isDigit
  if digits.length < least then none
  else some (basicNumber digits, chars.drop digits.length)

def takeMark? (mark : Char) : List Char → Option (List Char)
  | c :: rest => if c = mark then some rest else none
  | [] => none

def isGap (c : Char) : Bool := c == ' ' || c == '\t'

/-- The fraction of a second in millionths, and what follows. -/
def takeFraction : List Char → Nat × List Char
  | '.' :: rest =>
      let digits := rest.takeWhile Char.isDigit
      let six := digits.take 6
      (basicNumber (six ++ List.replicate (6 - six.length) '0'), rest.dropWhile Char.isDigit)
  | chars => (0, chars)

/-- The distance from universal time in minutes at the end of a text. -/
def zoneOf? (chars : List Char) : Option (Option Int) :=
  if chars.isEmpty then some none
  else
    match chars.dropWhile isGap with
    | ['Z'] => some (some 0)
    | sign :: rest =>
        if sign = '+' ∨ sign = '-' then do
          let (hours, afterHours) ← takeNumber? 1 2 rest
          let minutes ←
            match afterHours with
            | [] => some 0
            | _ => do
                let (minutes, afterMinutes) ← takeNumber? 2 2 (← takeMark? ':' afterHours)
                if afterMinutes.isEmpty then some minutes else none
          let distance : Int := hours * 60 + minutes
          return some (if sign = '-' then -distance else distance)
        else none
    | [] => none

/-- The fields of a day, and what follows. -/
def takeDay? (chars : List Char) : Option ((Nat × Nat × Nat) × List Char) := do
  let (year, afterYear) ← takeNumber? 4 4 chars
  let (month, afterMonth) ← takeNumber? 1 2 (← takeMark? '-' afterYear)
  let (day, afterDay) ← takeNumber? 1 2 (← takeMark? '-' afterMonth)
  return ((year, month, day), afterDay)

def takeClock? (chars : List Char) : Option Clock := do
  let afterGap ←
    match chars with
    | 'T' :: rest => some rest
    | 't' :: rest => some rest
    | c :: rest => if isGap c then some (rest.dropWhile isGap) else none
    | [] => none
  let (hour, afterHour) ← takeNumber? 1 2 afterGap
  let (minute, afterMinute) ← takeNumber? 2 2 (← takeMark? ':' afterHour)
  let (second, afterSecond) ← takeNumber? 2 2 (← takeMark? ':' afterMinute)
  let (microsecond, afterFraction) := takeFraction afterSecond
  let offset ← zoneOf? afterFraction
  return ⟨hour, minute, second, microsecond, offset⟩

/-- The fields of a moment, which need not be on any calendar. -/
def momentFields? (chars : List Char) : Option Moment := do
  let ((year, month, day), rest) ← takeDay? chars
  if rest.isEmpty then return ⟨year, month, day, none⟩
  else return ⟨year, month, day, some (← takeClock? rest)⟩

/-- What is said about a distance from universal time of a day or more. -/
def offsetProblem (offset : Int) : String :=
  let seconds := offset * 60
  let days := seconds / 86400
  let rest := seconds % 86400
  let parts :=
    (if days = 0 then [] else ["days=" ++ toString days]) ++
      (if rest = 0 then [] else ["seconds=" ++ toString rest])
  "offset must be a timedelta strictly between -timedelta(hours=24) and " ++
    "timedelta(hours=24), not datetime.timedelta(" ++ ", ".intercalate parts ++ ")."

/-- What is wrong with the fields of a moment. -/
def momentProblem? (moment : Moment) : Option String :=
  match moment.clock with
  | none => Moment.dayProblem? moment.year moment.month moment.day
  | some clock =>
      match clock.offset.filter fun offset => 1440 ≤ offset.natAbs with
      | some offset => some (offsetProblem offset)
      | none =>
          (Moment.dayProblem? moment.year moment.month moment.day).or
            (Moment.clockProblem? clock.hour clock.minute clock.second)

def noMoment : Except Problem α :=
  unusable "AttributeError" "'NoneType' object has no attribute 'groupdict'"

/-- A moment; a line feed at the end of its text does not count. -/
def momentOf (text : List Char) : Except Problem Moment :=
  match momentFields? (withoutFinalBreak text) with
  | none => noMoment
  | some moment =>
      match momentProblem? moment with
      | none => Except.ok moment
      | some message => unusable "ValueError" message

/-! ## Bytes -/

def sextet? (c : Char) : Option Nat :=
  if 'A' ≤ c ∧ c ≤ 'Z' then some (c.toNat - 'A'.toNat)
  else if 'a' ≤ c ∧ c ≤ 'z' then some (c.toNat - 'a'.toNat + 26)
  else if c.isDigit then some (c.toNat - '0'.toNat + 52)
  else if c = '+' then some 62
  else if c = '/' then some 63
  else none

/-- The sextets in front of the padding, and whether the padding is right. -/
def takeSextets : (place padding : Nat) → List Char → List Nat × Bool
  | place, _, [] => ([], place == 0)
  | place, padding, c :: rest =>
      if c = '=' then
        if 2 ≤ place ∧ 4 ≤ place + padding + 1 then ([], true)
        else takeSextets place (if 2 ≤ place then padding + 1 else padding) rest
      else
        match sextet? c with
        | some sextet =>
            let (others, right) := takeSextets ((place + 1) % 4) 0 rest
            (sextet :: others, right)
        | none => takeSextets place padding rest

/-- The octets of sextets, four of which make three. -/
def octetsOf : List Nat → List Nat
  | a :: b :: c :: d :: rest =>
      (a * 4 + b / 16) :: (b % 16 * 16 + c / 4) :: (c % 4 * 64 + d) :: octetsOf rest
  | [a, b, c] => [a * 4 + b / 16, b % 16 * 16 + c / 4]
  | [a, b] => [a * 4 + b / 16]
  | _ => []

def bytesOf (text : List Char) : Except Problem (List Nat) :=
  if text.any fun c => 0x80 ≤ c.toNat then
    Except.error (Problem.malformed "bytes are written in basic letters")
  else
    match takeSextets 0 0 text with
    | (sextets, true) => Except.ok (octetsOf sextets)
    | (_, false) => Except.error (Problem.malformed "bytes are padded wrongly")

/-- The value of a text by its tag. -/
def textAtom (tag : Tag) (mark : Nat) (text : List Char) : Except Problem Atom :=
  match tag with
  | Tag.null => Except.ok Atom.null
  | Tag.bool => (boolOf text).map Atom.bool
  | Tag.int => (intOf text).map Atom.int
  | Tag.float => floatOf text mark
  | Tag.text => Except.ok (Atom.text (String.ofList text))
  | Tag.timestamp => (momentOf text).map Atom.moment
  | Tag.binary => (bytesOf text).map Atom.bytes
  | _ => Except.error (Problem.malformed "a scalar has a tag without meaning")

end UtilityCss.Yaml

/-!
# Dates and times

A moment is a calendar day, possibly with a time of day, which may in turn
carry its distance from universal time.  Only real days and times are built.
-/

namespace UtilityCss

/-- A time of day; the offset counts minutes east of universal time. -/
structure Clock where
  hour : Nat
  minute : Nat
  second : Nat
  microsecond : Nat
  offset : Option Int
deriving DecidableEq, Repr

structure Moment where
  year : Nat
  month : Nat
  day : Nat
  clock : Option Clock
deriving DecidableEq, Repr

namespace Moment

def isLeapYear (year : Nat) : Bool :=
  year % 4 == 0 && (year % 100 != 0 || year % 400 == 0)

def daysInMonth (year month : Nat) : Nat :=
  if month = 2 then (if isLeapYear year then 29 else 28)
  else if month = 4 ∨ month = 6 ∨ month = 9 ∨ month = 11 then 30
  else 31

/-- What is wrong with a day that is not on the calendar. -/
def dayProblem? (year month day : Nat) : Option String :=
  if year < 1 ∨ 9999 < year then some ("year " ++ toString year ++ " is out of range")
  else if month < 1 ∨ 12 < month then some "month must be in 1..12"
  else if day < 1 ∨ daysInMonth year month < day then
    some "day is out of range for month"
  else none

/-- What is wrong with a time that is on no clock. -/
def clockProblem? (hour minute second : Nat) : Option String :=
  if 23 < hour then some "hour must be in 0..23"
  else if 59 < minute then some "minute must be in 0..59"
  else if 59 < second then some "second must be in 0..59"
  else none

/-- The number of days of the years before a year. -/
def daysBeforeYear (year : Nat) : Nat :=
  let past := year - 1
  past * 365 + past / 4 - past / 100 + past / 400

/-- The number of days before a day, from the first day of the first year on. -/
def dayNumber (moment : Moment) : Nat :=
  daysBeforeYear moment.year +
    ((List.range (moment.month - 1)).map fun index =>
      daysInMonth moment.year (index + 1)).foldl (· + ·) 0 +
    (moment.day - 1)

/-- The point of universal time in microseconds, of a moment that knows its
distance from it. -/
def instant? (moment : Moment) : Option Int := do
  let clock ← moment.clock
  let offset ← clock.offset
  let minutes : Int := moment.dayNumber * 1440 + clock.hour * 60 + clock.minute - offset
  return (minutes * 60 + clock.second) * 1000000 + clock.microsecond

/-- Whether two moments are one point of time; a moment that does not know its
distance from universal time is only itself. -/
def sameTime (left right : Moment) : Bool :=
  match left.instant?, right.instant? with
  | some leftInstant, some rightInstant => leftInstant == rightInstant
  | none, none => left == right
  | _, _ => false

def padded (width value : Nat) : String :=
  let digits := toString value
  String.ofList (List.replicate (width - digits.length) '0') ++ digits

def offsetText (offset : Int) : String :=
  let minutes := offset.natAbs
  (if offset < 0 then "-" else "+") ++ padded 2 (minutes / 60) ++ ":" ++ padded 2 (minutes % 60)

def dayText (moment : Moment) : String :=
  padded 4 moment.year ++ "-" ++ padded 2 moment.month ++ "-" ++ padded 2 moment.day

def clockText (clock : Clock) : String :=
  padded 2 clock.hour ++ ":" ++ padded 2 clock.minute ++ ":" ++ padded 2 clock.second ++
    (if clock.microsecond = 0 then "" else "." ++ padded 6 clock.microsecond) ++
    (match clock.offset with
      | none => ""
      | some offset => offsetText offset)

/-- Year, month and day, and after the separator the time if there is one. -/
def text (separator : String) (moment : Moment) : String :=
  match moment.clock with
  | none => moment.dayText
  | some clock => moment.dayText ++ separator ++ clockText clock

end Moment

end UtilityCss

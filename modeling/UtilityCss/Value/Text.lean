import UtilityCss.Decimal.Shortest
import UtilityCss.Text.Integer
import UtilityCss.Text.Quoted
import UtilityCss.Value

/-!
# The text of a value

A text stands for itself; inside a collection it is quoted.  Collections list
their parts between brackets, and moments inside them name their fields.  A
number with too many digits has no text, and neither has a collection that
holds one.
-/

namespace UtilityCss

open Decimal

namespace Moment

/-- The distance from universal time, as it is written inside collections:
days are whole and the seconds of a day are not negative. -/
def offsetForm (offset : Int) : String :=
  if offset = 0 then "datetime.timezone.utc"
  else
    let seconds := offset * 60
    let days := seconds / 86400
    let rest := seconds % 86400
    let parts :=
      (if days = 0 then [] else ["days=" ++ toString days]) ++
        (if rest = 0 then [] else ["seconds=" ++ toString rest])
    "datetime.timezone(datetime.timedelta(" ++ ", ".intercalate parts ++ "))"

/-- The fields of a moment, as it is written inside collections; seconds and
microseconds are left out from the end while they are zero. -/
def form (moment : Moment) : String :=
  let day := [moment.year, moment.month, moment.day].map toString
  match moment.clock with
  | none => "datetime.date(" ++ ", ".intercalate day ++ ")"
  | some clock =>
      let fine :=
        if clock.microsecond ≠ 0 then [clock.second, clock.microsecond]
        else if clock.second ≠ 0 then [clock.second]
        else []
      let numbers := day ++ ([clock.hour, clock.minute] ++ fine).map toString
      let zone :=
        match clock.offset with
        | none => []
        | some offset => ["tzinfo=" ++ offsetForm offset]
      "datetime.datetime(" ++ ", ".intercalate (numbers ++ zone) ++ ")"

end Moment

namespace Atom

def octetForm (octet : Nat) : List Char :=
  if octet = 0x5C then ['\\', '\\']
  else if octet = 0x09 then ['\\', 't']
  else if octet = 0x0A then ['\\', 'n']
  else if octet = 0x0D then ['\\', 'r']
  else if 0x20 ≤ octet ∧ octet < 0x7F then [Char.ofNat octet]
  else '\\' :: 'x' :: Text.hexDigits 2 octet

/-- Bytes between quotes, chosen as for texts. -/
def bytesForm (octets : List Nat) : String :=
  let quote := Text.quoteFor (octets.map Char.ofNat)
  let body := octets.flatMap fun octet =>
    if octet = quote.toNat then ['\\', quote] else octetForm octet
  String.ofList ('b' :: quote :: (body ++ [quote]))

/-- An atom as it is written inside a collection; a number with too many digits
is not written at all. -/
def form? : Atom → Option String
  | null => some "None"
  | bool truth => some (if truth then "True" else "False")
  | int number => if Text.isWritable number then some (toString number) else none
  | float number => some number.text
  | noNumber _ => some Binary64.undefined.text
  | text chars => some (Text.quoted chars)
  | codes points => some (Text.quotedCodes points)
  | moment time => some time.form
  | bytes octets => some (bytesForm octets)

/-- A code point in a text of its own: one that stands for no character is
spelled by number. -/
def shownCode (code : Nat) : List Char :=
  if Text.isSurrogate code then '\\' :: 'u' :: Text.hexDigits 4 code else [Char.ofNat code]

/-- An atom as it is written by itself. -/
def display? : Atom → Option String
  | text chars => some chars
  | codes points => some (String.ofList (points.flatMap shownCode))
  | moment time => some (time.text " ")
  | other => other.form?

end Atom

/-- The parts of a collection between brackets. -/
def bracketed (opening closing : String) (parts : List String) : String :=
  opening ++ ", ".intercalate parts ++ closing

/-- A set lists its members as a map lists its keys. -/
def setForm? (members : List Atom) : Option String :=
  if members.isEmpty then some "set()"
  else (members.mapM Atom.form?).map (bracketed "\x7b" "\x7d")

/-- A link as it is written inside a collection.  A part on the way to itself is
cut short, so no way is longer than there are parts; the fuel bounds it. -/
def Link.form? (parts : Array Part) : Nat → (way : List Nat) → Link → Option String
  | _, _, Link.atom content => content.form?
  | 0, _, Link.part _ => none
  | fuel + 1, way, Link.part place =>
      let inner := Link.form? parts fuel (place :: way)
      let isOnWay := way.contains place
      match parts[place]? with
      | some (Part.list items) =>
          if isOnWay then some "[...]"
          else (items.mapM inner).map (bracketed "[" "]")
      | some (Part.pairs entries) =>
          if isOnWay then some "[...]"
          else
            (entries.mapM fun (entry : Link × Link) => do
              return bracketed "(" ")" [← inner entry.1, ← inner entry.2]).map
              (bracketed "[" "]")
      | some (Part.map entries) =>
          if isOnWay then some "\x7b...\x7d"
          else
            (entries.mapM fun (entry : Atom × Link) => do
              return (← entry.1.form?) ++ ": " ++ (← inner entry.2)).map
              (bracketed "\x7b" "\x7d")
      | some (Part.set members) => setForm? members
      | none => none

namespace Value

mutual

/-- A value as it is written inside a collection. -/
def form? : Value → Option String
  | atom content => content.form?
  | list items => (formAll? items).map (bracketed "[" "]")
  | map entries => (formEntries? entries).map (bracketed "\x7b" "\x7d")
  | pair first second => do
      return bracketed "(" ")" [← form? first, ← form? second]
  | set members => setForm? members
  | knot parts place => Link.form? parts (parts.size + 2) [] (Link.part place)

def formAll? : List Value → Option (List String)
  | [] => some []
  | item :: items => do return (← form? item) :: (← formAll? items)

def formEntries? : List (Atom × Value) → Option (List String)
  | [] => some []
  | (key, value) :: entries => do
      return ((← key.form?) ++ ": " ++ (← form? value)) :: (← formEntries? entries)

end

/-- A value as it is written by itself, if its numbers can be written. -/
def display? : Value → Option String
  | atom content => content.display?
  | other => other.form?

/-- What is said about a number that cannot be written. -/
def unwritable : String :=
  "Exceeds the limit (4300 digits) for integer string conversion; " ++
    "use sys.set_int_max_str_digits() to increase the limit"

end Value

/-- Style values as they show themselves. -/
def StyleValues.form (styles : OrderedMap String String) : String :=
  "ComputedStyle(" ++
    bracketed "\x7b" "\x7d" (styles.entries.map fun entry =>
      Text.quoted entry.1 ++ ": " ++ Text.quoted entry.2) ++ ")"

end UtilityCss

import UtilityCss.Conversion

/-!
# Conversions as JSON

A conversion is written as an object of four fields, one on a line.
-/

namespace UtilityCss.Conversion

/-- A hexadecimal digit in lower case. -/
def hexDigit (value : Nat) : Char :=
  Char.ofNat (if value < 10 then '0'.toNat + value else 'a'.toNat + value - 10)

def escapeJsonChar (c : Char) : List Char :=
  if c = '"' then ['\\', '"']
  else if c = '\\' then ['\\', '\\']
  else if c = '\n' then ['\\', 'n']
  else if c = '\t' then ['\\', 't']
  else if c = '\r' then ['\\', 'r']
  else if c = '\x08' then ['\\', 'b']
  else if c = '\x0c' then ['\\', 'f']
  else if c.toNat < 0x20 then
    ['\\', 'u', '0', '0', hexDigit (c.toNat / 16), hexDigit (c.toNat % 16)]
  else [c]

def jsonText (text : String) : String :=
  String.ofList ('"' :: (text.toList.flatMap escapeJsonChar ++ ['"']))

def jsonOption (write : α → String) : Option α → String
  | none => "null"
  | some value => write value

/-- A field with a comma after it unless it is the last one. -/
def jsonField (name value : String) (last : Bool) : String :=
  "  \"" ++ name ++ "\": " ++ value ++ (if last then "" else ",")

/-- Texts as an array with one on a line. -/
def jsonTexts : List String → String
  | [] => "[]"
  | texts =>
      "[\n" ++ ",\n".intercalate (texts.map fun text => "    " ++ jsonText text) ++ "\n  ]"

/-- The conversion as an object over several lines. -/
def json (result : Conversion) : String :=
  "\n".intercalate
    ["\x7b",
      jsonField "css" (jsonText result.css) false,
      jsonField "error" (jsonOption jsonText (result.failure.map Failure.message)) false,
      jsonField "error_kind"
        (jsonOption jsonText (result.failure.map fun failure => failure.kind.label)) false,
      jsonField "warnings" (jsonOption jsonTexts result.warnings) true,
      "\x7d"]

end UtilityCss.Conversion

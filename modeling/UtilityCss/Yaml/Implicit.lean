import UtilityCss.Pattern
import UtilityCss.Yaml.Node

/-!
# What plain scalars mean

A plain scalar without a tag is a truth value, a number, a date, nothing, or a
text, by its form alone.
-/

namespace UtilityCss.Yaml

def truthWords : List String :=
  ["yes", "Yes", "YES", "true", "True", "TRUE", "on", "On", "ON"]

def falsehoodWords : List String :=
  ["no", "No", "NO", "false", "False", "FALSE", "off", "Off", "OFF"]

def nullWords : List String := ["~", "null", "Null", "NULL"]

namespace Form

open Pattern

def char (expected : Char) : Pattern := one (· == expected)

def sign : Pattern := optional (one fun c => c == '+' || c == '-')

def digit : Pattern := one Char.isDigit

def digits : Pattern := run Char.isDigit

/-- Digits and underscores, none included. -/
def numerals : Pattern := run fun c => c.isDigit || c == '_'

/-- Two base-sixty digits behind a colon, or one. -/
def sixtieth : Pattern :=
  seq (char ':') (seq (optional (one fun c => '0' ≤ c && c ≤ '5')) digit)

/-- One or more parts in base sixty, at most as many as given. -/
def sixtieths : Nat → Pattern
  | 0 => empty
  | most + 1 => seq sixtieth (optional (sixtieths most))

def exponent : Pattern :=
  optional (seq (one fun c => c == 'e' || c == 'E')
    (seq (one fun c => c == '+' || c == '-') (atLeastOne Char.isDigit)))

def exact (text : String) : Pattern :=
  text.toList.foldr (fun c rest => seq (char c) rest) empty

def exacts : List String → Pattern
  | [] => one fun _ => false
  | text :: others => alt (exact text) (exacts others)

/-- Numbers with a fraction; `parts` bounds the parts in base sixty. -/
def float (parts : Nat) : Pattern :=
  alt (seq sign (seq digit (seq numerals (seq (char '.') (seq numerals exponent)))))
    (alt (seq (char '.') (seq digit (seq numerals exponent)))
      (alt
        (seq sign (seq digit (seq numerals (seq (sixtieths parts) (seq (char '.') numerals)))))
        (alt (seq sign (seq (char '.') (exacts ["inf", "Inf", "INF"])))
          (seq (char '.') (exacts ["nan", "NaN", "NAN"])))))

/-- Whole numbers in base two, eight, ten, sixteen or sixty. -/
def int (parts : Nat) : Pattern :=
  seq sign
    (alt (seq (exact "0b") (atLeastOne fun c => c == '0' || c == '1' || c == '_'))
      (alt (seq (char '0') (atLeastOne fun c => ('0' ≤ c && c ≤ '7') || c == '_'))
        (alt (char '0')
          (alt (seq (one fun c => '1' ≤ c && c ≤ '9') numerals)
            (alt
              (seq (exact "0x")
                (atLeastOne fun c =>
                  c.isDigit || ('a' ≤ c && c ≤ 'f') || ('A' ≤ c && c ≤ 'F') || c == '_'))
              (seq (one fun c => '1' ≤ c && c ≤ '9') (seq numerals (sixtieths parts))))))))

def twoDigits : Pattern := seq digit digit

def oneOrTwoDigits : Pattern := seq digit (optional digit)

def gap : Pattern := run fun c => c == ' ' || c == '\t'

def date : Pattern :=
  seq twoDigits (seq twoDigits
    (seq (char '-') (seq twoDigits (seq (char '-') twoDigits))))

/-- The distance from universal time. -/
def zone : Pattern :=
  alt (char 'Z')
    (seq (one fun c => c == '+' || c == '-')
      (seq oneOrTwoDigits (optional (seq (char ':') twoDigits))))

/-- A day, with a time of day behind it if days may have short fields. -/
def moment : Pattern :=
  seq twoDigits (seq twoDigits
    (seq (char '-') (seq oneOrTwoDigits (seq (char '-') (seq oneOrTwoDigits
      (seq
        (alt (one fun c => c == 'T' || c == 't')
          (atLeastOne fun c => c == ' ' || c == '\t'))
        (seq oneOrTwoDigits (seq (char ':') (seq twoDigits (seq (char ':') (seq twoDigits
          (seq (optional (seq (char '.') digits))
            (optional (seq gap zone))))))))))))))

end Form

/-- A text without a line feed at its end. -/
def withoutFinalBreak (chars : List Char) : List Char :=
  if chars.getLast? = some '\n' then chars.dropLast else chars

/-- What a text that is not empty is by its form. -/
def tagByForm (chars : List Char) : Tag :=
  let text := String.ofList chars
  let parts := chars.count ':'
  if truthWords.contains text || falsehoodWords.contains text then Tag.bool
  else if (Form.float parts).matchesAll chars then Tag.float
  else if (Form.int parts).matchesAll chars then Tag.int
  else if text = "<<" then Tag.merge
  else if nullWords.contains text then Tag.null
  else if Form.date.matchesAll chars || Form.moment.matchesAll chars then Tag.timestamp
  else if text = "=" then Tag.defaultValue
  else Tag.text

/-- What a scalar is by its form; a line feed at its end does not count. -/
def implicitTag : Content → Tag
  | Content.text "" => Tag.null
  | Content.text chars => tagByForm (withoutFinalBreak chars.toList)
  | Content.codes _ => Tag.text

end UtilityCss.Yaml

import UtilityCss.Text.Hexadecimal
import UtilityCss.Text.Printable

/-!
# Quoted texts

A text inside a list or a map is written between single quotes, or between
double quotes if it holds a single quote and no double quote.  Unprintable
characters are spelled by number, and so are code points that stand for no
character.
-/

namespace UtilityCss.Text

def escapeChar (quote c : Char) : List Char :=
  if c = '\\' ∨ c = quote then ['\\', c]
  else if c = '\n' then ['\\', 'n']
  else if c = '\r' then ['\\', 'r']
  else if c = '\t' then ['\\', 't']
  else if isPrintable c then [c]
  else if c.toNat < 0x100 then '\\' :: 'x' :: hexDigits 2 c.toNat
  else if c.toNat < 0x10000 then '\\' :: 'u' :: hexDigits 4 c.toNat
  else '\\' :: 'U' :: hexDigits 8 c.toNat

def quoteFor (chars : List Char) : Char :=
  if chars.contains '\'' && !chars.contains '"' then '"' else '\''

def quoted (text : String) : String :=
  let quote := quoteFor text.toList
  String.ofList (quote :: (text.toList.flatMap (escapeChar quote) ++ [quote]))

/-- Whether a code point is half of a pair and stands for no character. -/
def isSurrogate (code : Nat) : Bool :=
  0xD800 ≤ code && code ≤ 0xDFFF

def escapeCode (quote : Char) (code : Nat) : List Char :=
  if isSurrogate code then '\\' :: 'u' :: hexDigits 4 code
  else escapeChar quote (Char.ofNat code)

/-- A text of code points as it is quoted. -/
def quotedCodes (codes : List Nat) : String :=
  let quote :=
    if codes.contains '\''.toNat && !codes.contains '"'.toNat then '"' else '\''
  String.ofList (quote :: (codes.flatMap (escapeCode quote) ++ [quote]))

end UtilityCss.Text

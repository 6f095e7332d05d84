/-!
# Texts inside markup

A text stands in an attribute of markup with the characters escaped that mean
something there.
-/

namespace UtilityCss.Text

def escapeMarkupChar (c : Char) : List Char :=
  if c = '&' then "&amp;".toList
  else if c = '<' then "&lt;".toList
  else if c = '>' then "&gt;".toList
  else if c = '"' then "&quot;".toList
  else if c = '\'' then "&#x27;".toList
  else [c]

def escapeMarkup (chars : List Char) : List Char :=
  chars.flatMap escapeMarkupChar

end UtilityCss.Text

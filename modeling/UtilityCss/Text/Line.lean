/-!
# Lines of a text

A line ends with a line feed, a carriage return, or the two in a row.
`unifyBreaks` writes a line feed for each of them, and `lines` cuts a text
after its line feeds.
-/

namespace UtilityCss.Text

/-- Line feeds in place of all ways to end a line. -/
def unifyBreaks : List Char → List Char
  | [] => []
  | '\r' :: '\n' :: rest => '\n' :: unifyBreaks rest
  | '\r' :: rest => '\n' :: unifyBreaks rest
  | c :: rest => c :: unifyBreaks rest

/-- The lines of a text without their line feeds; after the last line feed
there is a line only if there is text. -/
def lines : List Char → List (List Char)
  | [] => []
  | head :: tail =>
      if head = '\n' then
        [] :: lines tail
      else
        match lines tail with
        | [] => [[head]]
        | line :: others => (head :: line) :: others

end UtilityCss.Text

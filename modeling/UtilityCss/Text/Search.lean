/-!
# Searching texts
-/

namespace UtilityCss.Text

/-- Whether `needle` stands somewhere in the text, letter for letter. -/
def contains (needle : List Char) : List Char → Bool
  | [] => needle.isEmpty
  | head :: tail => needle.isPrefixOf (head :: tail) || contains needle tail

/-- The parts between the occurrences of a separating character. -/
def splitAt (separator : Char) : List Char → List (List Char)
  | [] => [[]]
  | head :: tail =>
      if head = separator then
        [] :: splitAt separator tail
      else
        match splitAt separator tail with
        | [] => [[head]]
        | part :: others => (head :: part) :: others

end UtilityCss.Text

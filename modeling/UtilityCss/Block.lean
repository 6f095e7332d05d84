import UtilityCss.OrderedMap
import UtilityCss.Property

/-!
# Declaration blocks

The values found for the properties of an element are cut down to those that
say something and written as one block, a line for each declaration, the lines
in ascending order of their characters.
-/

namespace UtilityCss

/-- The values of properties by name. -/
abbrev StyleValues := OrderedMap String String

/-- The value of a property, the empty text if it has none. -/
def StyleValues.valueOf (styles : StyleValues) (property : String) : String :=
  (styles.find? property).getD ""

namespace Block

/-- The declarations worth writing, in the order of the properties. -/
def declarations (styles : StyleValues) : List (String × String) :=
  (Property.relevant.map fun property => (property, styles.valueOf property)).filter
    fun declaration => Property.isMeaningful declaration.1 declaration.2

/-- What stands in place of a block without declarations. -/
def sentinel : String :=
  "/* No styles generated - try adding some Tailwind classes */"

def defaultSelector : String := ".element"

/-- The line of a declaration. -/
def line (declaration : String × String) : String :=
  "  " ++ declaration.1 ++ ": " ++ declaration.2 ++ ";"

/-- Sorts texts by their characters. -/
def sortLines (lines : List String) : List String :=
  lines.mergeSort fun left right => decide (left ≤ right)

/-- The block of declarations under a selector. -/
def render (styles : StyleValues) (selector : String) : String :=
  match sortLines ((declarations styles).map line) with
  | [] => sentinel
  | lines => selector ++ " \x7b\n" ++ "\n".intercalate lines ++ "\n\x7d"

end Block

end UtilityCss

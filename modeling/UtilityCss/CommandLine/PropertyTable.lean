import UtilityCss.CommandLine.Help
import UtilityCss.Property

/-!
# The table of properties

All properties with their groups and default values, in three columns between
lines.  A column is as wide as its widest cell.
-/

namespace UtilityCss.CommandLine.PropertyTable

structure Row where
  group : String
  property : String
  defaults : String
deriving DecidableEq, Repr

def header : Row := ⟨"Group", "Property", "Suppressed defaults"⟩

/-- The default values of a property as a cell. -/
def defaultsCell (property : String) : String :=
  match Property.defaultValues.find? fun entry => entry.1 == property with
  | some (_, values) => ", ".intercalate values
  | none => "-"

/-- A row for each property in the order of the groups. -/
def rows : List Row :=
  Property.groups.flatMap fun group =>
    group.2.map fun property => ⟨group.1, property, defaultsCell property⟩

def widest (cell : Row → String) : Nat :=
  ((header :: rows).map fun row => (cell row).length).foldl max 0

/-- The widths of the columns. -/
def widths : List Nat := [widest Row.group, widest Row.property, widest Row.defaults]

def pad (width : Nat) (cell : String) : String :=
  cell ++ spaces (width - cell.length)

/-- A row between uprights. -/
def rowLine (upright : String) (row : Row) : String :=
  let cells := List.zipWith pad widths [row.group, row.property, row.defaults]
  upright ++ upright.intercalate (cells.map fun cell => " " ++ cell ++ " ") ++ upright

/-- A horizontal line with its two ends and its crossings. -/
def ruleLine (left dash crossing right : String) : String :=
  let dashes := widths.map fun width => String.join (List.replicate (width + 2) dash)
  left ++ crossing.intercalate dashes ++ right

def title : String := "Output Properties"

/-- The title in the middle above the table. -/
def titleLine : String :=
  let whole := widths.foldl (· + ·) 10
  spaces ((whole - title.length) / 2) ++ title

def lines : List String :=
  [titleLine,
    ruleLine "┏" "━" "┳" "┓",
    rowLine "┃" header,
    ruleLine "┡" "━" "╇" "┩"] ++
  rows.map (rowLine "│") ++
  [ruleLine "└" "─" "┴" "┘"]

end UtilityCss.CommandLine.PropertyTable

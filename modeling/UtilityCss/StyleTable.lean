import UtilityCss.Block
import UtilityCss.Settings.Field
import UtilityCss.Value.Text

/-!
# Style tables

A style table lists classes with the declarations they make, on top of the
values of an element without classes.  When several classes declare the same
property, the one listed last in the table wins.
-/

namespace UtilityCss

structure StyleTable where
  base : StyleValues
  styles : OrderedMap String StyleValues
  /-- No class declares a property twice. -/
  distinct : ∀ style ∈ styles.entries, style.2.Distinct
deriving DecidableEq, Repr

namespace StyleTable

/-- The values of an element that has the classes which pass the test. -/
def cascade (table : StyleTable) (has : String → Bool) : StyleValues :=
  table.styles.entries.foldl
    (fun values style => if has style.1 then values.update style.2 else values)
    table.base

/-- Declarations with keys and values written as texts, if all of them can be
written. -/
def declarationsOf? (entries : List (Atom × Value)) : Option StyleValues :=
  (entries.mapM fun (entry : Atom × Value) => do
    return (← entry.1.display?, ← entry.2.display?)).map OrderedMap.ofList

/-- What a class declares: nothing if its value is no map. -/
def declared? (value : Value) : Option (Option StyleValues) :=
  match value.entries? with
  | none => some none
  | some entries => (declarationsOf? entries).map some

theorem distinct_of_declarationsOf? {entries : List (Atom × Value)}
    {declarations : StyleValues}
    (read : declarationsOf? entries = some declarations) :
    declarations.Distinct := by
  obtain ⟨texts, _, rfl⟩ := Option.map_eq_some_iff.mp read
  exact OrderedMap.distinct_ofList texts

theorem distinct_of_declared? {value : Value} {declarations : StyleValues}
    (read : declared? value = some (some declarations)) :
    declarations.Distinct := by
  rw [declared?] at read
  split at read
  · cases read
  · obtain ⟨found, parsed, same⟩ := Option.map_eq_some_iff.mp read
    cases same
    exact distinct_of_declarationsOf? parsed

def readBase : Option Value → Except (List Complaint) StyleValues
  | none => Except.ok OrderedMap.empty
  | some value =>
      match value.entries? with
      | none => Except.error [⟨["base"], Problem.mapType⟩]
      | some entries =>
          match declarationsOf? entries with
          | some declarations => Except.ok declarations
          | none => Except.error [⟨["base"], Problem.unwritable⟩]

/-- The styles with class names as texts, each with what it declares. -/
def namedStyles? (entries : List (Atom × Value)) :
    Option (OrderedMap String (Option StyleValues)) :=
  (entries.mapM fun (entry : Atom × Value) => do
    return (← entry.1.display?, ← declared? entry.2)).map OrderedMap.ofList

/-- Every entry that was read comes from one of the entries. -/
theorem exists_of_mem_mapM {read : α → Option β} {entries : List α}
    {results : List β} (whole : entries.mapM read = some results)
    {result : β} (member : result ∈ results) :
    ∃ entry, read entry = some result := by
  induction entries generalizing results with
  | nil =>
      obtain rfl := Option.some.inj whole
      cases member
  | cons head tail inductionHypothesis =>
      rw [List.mapM_cons] at whole
      obtain ⟨first, readFirst, whole⟩ := Option.bind_eq_some_iff.mp whole
      obtain ⟨others, readOthers, whole⟩ := Option.bind_eq_some_iff.mp whole
      obtain rfl := Option.some.inj whole
      rcases List.mem_cons.mp member with rfl | later
      · exact ⟨head, readFirst⟩
      · exact inductionHypothesis readOthers later

/-- No class of a table that was read declares a property twice. -/
theorem distinct_of_namedStyles? {entries : List (Atom × Value)}
    {styles : OrderedMap String (Option StyleValues)}
    (read : namedStyles? entries = some styles) :
    ∀ style ∈ styles.entries, ∀ declarations,
      style.2 = some declarations → declarations.Distinct := by
  intro style member declarations same
  obtain ⟨texts, written, rfl⟩ := Option.map_eq_some_iff.mp read
  obtain ⟨source, listed, equal⟩ := OrderedMap.exists_of_mem_ofList member
  obtain ⟨entry, made⟩ := exists_of_mem_mapM written listed
  obtain ⟨name, _, made⟩ := Option.bind_eq_some_iff.mp made
  obtain ⟨declared, readDeclared, made⟩ := Option.bind_eq_some_iff.mp made
  obtain rfl := Option.some.inj made
  have given : declared = some declarations := equal.trans same
  exact distinct_of_declared? (given ▸ readDeclared)

/-- Class names whose declarations are not a map. -/
def styleComplaints (styles : OrderedMap String (Option StyleValues)) : List Complaint :=
  styles.entries.filterMap fun entry =>
    match entry.2 with
    | some _ => none
    | none => some ⟨["styles", entry.1], Problem.mapType⟩

/-- The classes with the declarations of those that have any. -/
def declaring (styles : OrderedMap String (Option StyleValues)) :
    OrderedMap String StyleValues :=
  ⟨styles.entries.filterMap fun entry =>
    entry.2.map fun declarations => (entry.1, declarations)⟩

theorem distinct_of_declaring {entries : List (Atom × Value)}
    {styles : OrderedMap String (Option StyleValues)}
    (read : namedStyles? entries = some styles) :
    ∀ style ∈ (declaring styles).entries, style.2.Distinct := by
  intro style member
  obtain ⟨entry, listed, found⟩ := List.mem_filterMap.mp member
  obtain ⟨declarations, given, rfl⟩ := Option.map_eq_some_iff.mp found
  exact distinct_of_namedStyles? read entry listed declarations given

/-- The classes of a table with what they declare. -/
abbrev ClassStyles :=
  { styles : OrderedMap String StyleValues //
    ∀ style ∈ styles.entries, style.2.Distinct }

def readStyles : Option Value → Except (List Complaint) ClassStyles
  | none => Except.ok ⟨OrderedMap.empty, fun _ member => by cases member⟩
  | some value =>
      match value.entries? with
      | none => Except.error [⟨["styles"], Problem.mapType⟩]
      | some entries =>
          match read : namedStyles? entries with
          | none => Except.error [⟨["styles"], Problem.unwritable⟩]
          | some styles =>
              match styleComplaints styles with
              | [] => Except.ok ⟨declaring styles, distinct_of_declaring read⟩
              | complaints => Except.error complaints

/-- The table with the given parts; a missing part is empty. -/
def ofFields (field? : String → Option Value) : Except Invalid StyleTable :=
  match readBase (field? "base"), readStyles (field? "styles") with
  | Except.ok base, Except.ok styles => Except.ok ⟨base, styles.1, styles.2⟩
  | Except.error complaints, Except.ok _ => Except.error ⟨"StyleTable", complaints⟩
  | Except.ok _, Except.error complaints => Except.error ⟨"StyleTable", complaints⟩
  | Except.error first, Except.error second =>
      Except.error ⟨"StyleTable", first ++ second⟩

end StyleTable

end UtilityCss

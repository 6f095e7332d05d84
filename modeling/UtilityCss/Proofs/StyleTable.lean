import Mathlib.Data.List.Basic
import UtilityCss.Proofs.OrderedMap
import UtilityCss.StyleTable

/-!
# The values that a table gives

The cascade of a table goes through the classes in the order of the table, so
for every property the class that is listed last and declares it wins, whatever
the order in which an element names its classes.
-/

namespace UtilityCss.StyleTable

/-- What the class listed last among those that an element has and that declare
a property declares for it. -/
def declaredLast? (table : StyleTable) (has : String → Bool)
    (property : String) : Option String :=
  (table.styles.entries.filter fun style => has style.1).reverse.findSome?
    fun style => style.2.find? property

/-- The value of a property for an element that has the classes which pass the
test: what is declared last, else the value of an element without classes, else
the empty text. -/
def valueFor (table : StyleTable) (has : String → Bool) (property : String) :
    String :=
  ((table.declaredLast? has property).or (table.base.find? property)).getD ""

theorem find?_foldl_update (has : String → Bool) (base : StyleValues)
    (styles : List (String × StyleValues))
    (distinct : ∀ style ∈ styles, style.2.Distinct) (property : String) :
    (styles.foldl
        (fun values style =>
          if has style.1 then values.update style.2 else values)
        base).find? property =
      ((styles.filter fun style => has style.1).reverse.findSome?
          fun style => style.2.find? property).or
        (base.find? property) := by
  induction styles generalizing base with
  | nil => rfl
  | cons style others inductionHypothesis =>
      -- the classes that follow go before the first one and the base
      have later := fun values =>
        inductionHypothesis values
          (fun other member =>
            distinct other (List.mem_cons_of_mem style member))
      rw [List.foldl_cons, later]
      by_cases belongs : has style.1 = true
      · have update :=
          OrderedMap.find?_update base style.2
            (distinct style List.mem_cons_self) property
        rw [if_pos belongs, update, List.filter_cons, if_pos belongs,
          List.reverse_cons, List.findSome?_append, List.findSome?_singleton,
          Option.or_assoc]
      · rw [if_neg belongs, List.filter_cons, if_neg belongs]

theorem valueOf_cascade (table : StyleTable) (has : String → Bool)
    (property : String) :
    (table.cascade has).valueOf property = table.valueFor has property := by
  rw [StyleValues.valueOf, cascade,
    find?_foldl_update has table.base _ table.distinct, valueFor,
    declaredLast?]

/-- Only the classes of the table matter. -/
theorem cascade_congr (table : StyleTable) {has has' : String → Bool}
    (agree : ∀ name ∈ table.styles.keys, has name = has' name) :
    table.cascade has = table.cascade has' := by
  refine List.foldl_ext _ _ _ fun values style member => ?_
  rw [agree style.1 (List.mem_map_of_mem member)]

end UtilityCss.StyleTable

import Mathlib
import UtilityCss.Proofs.Atom
import UtilityCss.Proofs.Configuration.Sources
import UtilityCss.Proofs.OrderedMap

/-!
# Which source of a configuration counts

The value of a key comes from the highest source that has the key: what was asked
for explicitly, the variables, the file of the closest folder, the file for all
folders, and the usual values.  The sources differ in what they take for having a
key.  A request does not have a key that it leaves open, a variable has its key
even if its text is empty, and a file has a key even if its value is null.
-/

namespace UtilityCss

namespace Configuration

/-! ## What was asked for -/

/-- The value that a request gives to a key, unless it leaves the key open. -/
def requested? (request : List (Atom × Value)) (key : Atom) : Option Value :=
  ((⟨request⟩ : Configuration).find? key).filter fun value => !value.isNull

theorem find?_ofRequest {request : List (Atom × Value)}
    (distinct : (⟨request⟩ : Configuration).Distinct) (key : Atom) :
    (ofRequest request).find? key = requested? request key := by
  rw [ofRequest, OrderedMap.find?_ofList (distinct.filter _),
    OrderedMap.find?_filter distinct fun value => !value.isNull, requested?]

/-! ## Variables -/

/-- What the text of a variable means for a key. -/
def coerced (key text : String) : Value :=
  if key = "enable_syntax_highlighting" then
    let word := String.ofList (Text.lower (Text.trim text.toList))
    Value.bool (word ∈ ["1", "true", "yes", "on"])
  else if key ∈ ["max_input_length", "cache_capacity", "debounce_ms",
      "launch_timeout_ms"] then
    ((Text.integerOf? text.toList).map Value.int).getD (Value.text text)
  else Value.text text

/-- The value that the variables give to a key.  An empty text is a text. -/
def fromVariable? (environment : String → Option String) (key : Atom) :
    Option Value :=
  Variable.all.findSome? fun entry =>
    if Atom.text entry.2 = key then
      (environment entry.1).map (coerced entry.2)
    else none

theorem fst_read (key text : String) :
    (Variable.read key text).1 = coerced key text := by
  rw [Variable.read, coerced, Variable.truthKeys, Variable.trueWords,
    Variable.integerKeys]
  simp only [List.contains_eq_mem, List.mem_singleton, decide_eq_true_eq]
  split
  · rfl
  · split
    · cases Text.integerOf? text.toList <;> rfl
    · rfl

section Variables

variable (environment : String → Option String)

/-- What some variables set. -/
def settingsOf (settable : List (String × String)) : List (Atom × Value) :=
  settable.filterMap fun entry =>
    (environment entry.1).map fun text =>
      (Atom.text entry.2, coerced entry.2 text)

theorem fst_ofVariables (surroundings : Surroundings) :
    (ofVariables surroundings).1 =
      OrderedMap.ofList (settingsOf surroundings.environment Variable.all) := by
  simp only [ofVariables, Variable.readAll, settingsOf, List.map_filterMap,
    Option.map_map, Function.comp_def, fst_read]

theorem keys_settingsOf (settable : List (String × String)) :
    ((settingsOf environment settable).map Prod.fst).Sublist
      (settable.map fun entry => Atom.text entry.2) := by
  induction settable with
  | nil => exact List.Sublist.slnil
  | cons entry others inductionHypothesis =>
      rw [settingsOf, List.filterMap_cons]
      cases environment entry.1 with
      | none => exact inductionHypothesis.cons _
      | some text => exact inductionHypothesis.cons_cons _

theorem find?_settingsOf (settable : List (String × String)) (key : Atom) :
    (⟨settingsOf environment settable⟩ : Configuration).find? key =
      settable.findSome? fun entry =>
        if Atom.text entry.2 = key then
          (environment entry.1).map (coerced entry.2)
        else none := by
  induction settable with
  | nil => rfl
  | cons entry others inductionHypothesis =>
      rw [settingsOf] at inductionHypothesis ⊢
      rw [List.filterMap_cons, List.findSome?_cons]
      cases environment entry.1 with
      | none =>
          rw [Option.map_none, Option.map_none, ite_self]
          exact inductionHypothesis
      | some text =>
          simp only [Option.map_some]
          rw [OrderedMap.find?_cons, inductionHypothesis]
          simp only [Atom.text_beq_iff]
          split
          · rfl
          · rfl

theorem distinct_settingsOf_all :
    (⟨settingsOf environment Variable.all⟩ : Configuration).Distinct := by
  have distinct : (Variable.all.map fun entry => Atom.text entry.2).Pairwise
      fun earlier later => (earlier == later) = false := by
    decide +kernel
  exact distinct.sublist (keys_settingsOf environment Variable.all)

theorem find?_ofVariables (surroundings : Surroundings) (key : Atom) :
    (ofVariables surroundings).1.find? key =
      fromVariable? surroundings.environment key := by
  rw [fst_ofVariables, OrderedMap.find?_ofList (distinct_settingsOf_all _),
    find?_settingsOf, fromVariable?]

end Variables

/-! ## The highest source counts -/

/-- Key by key, what was asked for counts before the variables, these before the
file of the closest folder that has one, that before the file for all folders,
and that before the usual values. -/
theorem find?_gather (surroundings : Surroundings)
    {request : List (Atom × Value)}
    (distinct : (⟨request⟩ : Configuration).Distinct)
    (legible : Legible surroundings) :
    ∃ project configuration,
      surroundings.FoundUpward projectFileName surroundings.folders project ∧
      (gather surroundings request).2 = Except.ok configuration ∧
      ∀ key, configuration.find? key =
        ((requested? request key).or
          ((fromVariable? surroundings.environment key).or
            (((mappingIn surroundings.reader project).find? key).or
              (((mappingIn surroundings.reader
                (surroundings.entry? surroundings.globalFile)).find? key).or
                (usual.find? key))))) := by
  refine ⟨projectEntry surroundings, _,
    (foundUpward_projectEntry surroundings).mpr rfl,
    gather_of_legible surroundings request legible, fun key => ?_⟩
  have usualDistinct : usual.Distinct := OrderedMap.distinct_ofList _
  have variablesDistinct : (ofVariables surroundings).1.Distinct :=
    OrderedMap.distinct_ofList _
  have requestDistinct : (ofRequest request).Distinct :=
    OrderedMap.distinct_ofList _
  simp only [layered, List.foldl_cons, List.foldl_nil]
  rw [OrderedMap.find?_update _ _ requestDistinct,
    OrderedMap.find?_update _ _ variablesDistinct,
    OrderedMap.find?_update _ _ (distinct_mappingIn _ _),
    OrderedMap.find?_update _ _ (distinct_mappingIn _ _),
    OrderedMap.find?_update _ _ usualDistinct,
    find?_ofRequest distinct, find?_ofVariables, OrderedMap.find?_empty,
    Option.or_none]

/-- A folder inside a project.  The file of the project gives null to a key that
the file for all folders sets, and a variable is empty. -/
def insideProject : Surroundings where
  entry? := fun path =>
    if path = "home/config.yaml" then
      some (Entry.file "resolver: static\nsize: 7\n")
    else if path = "work/tw2css.yaml" then
      some (Entry.file "resolver: null\n")
    else none
  isOverlong := fun _ => false
  globalFile := "home/config.yaml"
  folders := ["work/pages", "work"]
  environment := fun name =>
    if name = "TW2CSS_STYLES_FILE" then some "" else none

theorem load_resolver_static :
    insideProject.reader.load "resolver: static\nsize: 7\n" =
      Except.ok (Value.map
        [(Atom.text "resolver", Value.text "static"),
          (Atom.text "size", Value.int 7)]) := by
  cbv

theorem load_resolver_null :
    insideProject.reader.load "resolver: null\n" =
      Except.ok (Value.map [(Atom.text "resolver", Value.null)]) := by
  cbv

theorem find?_gather_insideProject :
    (⟨[(Atom.text "browser", Value.null),
      (Atom.text "debounce_ms", Value.int 0)]⟩ : Configuration).Distinct ∧
    Legible insideProject ∧
    ∃ configuration,
      (gather insideProject
        [(Atom.text "browser", Value.null),
          (Atom.text "debounce_ms", Value.int 0)]).2 = Except.ok configuration ∧
      configuration.field? "debounce_ms" = some (Value.int 0) ∧
      configuration.field? "browser" = some (Value.text "chromium") ∧
      configuration.field? "styles_file" = some (Value.text "") ∧
      configuration.field? "resolver" = some Value.null ∧
      configuration.field? "size" = some (Value.int 7) ∧
      configuration.field? "other" = none := by
  have global : insideProject.entry? insideProject.globalFile =
      some (Entry.file "resolver: static\nsize: 7\n") := rfl
  have project : projectEntry insideProject =
      some (Entry.file "resolver: null\n") := by
    decide +kernel
  have distinct : (⟨[(Atom.text "browser", Value.null),
      (Atom.text "debounce_ms", Value.int 0)]⟩ : Configuration).Distinct := by
    decide +kernel
  have legible : Legible insideProject := by
    rw [legible_iff, global, project]
    exact ⟨readable_file load_resolver_static, readable_file load_resolver_null⟩
  obtain ⟨found, configuration, upward, gathers, value⟩ :=
    find?_gather insideProject distinct legible
  rw [foundUpward_projectEntry, project] at upward
  subst upward
  rw [global, mappingIn_file load_resolver_static,
    mappingIn_file load_resolver_null] at value
  refine ⟨distinct, legible, configuration, gathers, ?_⟩
  simp only [field?, value]
  exact ⟨rfl, rfl, rfl, rfl, rfl, rfl⟩

end Configuration

end UtilityCss

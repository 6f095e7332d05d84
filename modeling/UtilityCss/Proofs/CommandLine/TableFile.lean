import Mathlib
import UtilityCss.Proofs.CommandLine.Repetition
import UtilityCss.Proofs.StyleTable.File

/-!
# A style table from a file at the command line

A table that a configuration names is used, or the run ends with a message about
it.  Only what nobody foresaw about the file ends a run without a message.
-/

namespace UtilityCss.CommandLine

/-- The plan goes on to serve the input with a bench. -/
inductive Plan.Serves (bench : Bench) : Plan → Prop
  | once (told : Printed) (level : LogLevel) (asJson : Bool)
      (operands : List String) :
      Plan.Serves bench (Plan.once ⟨bench, told, level⟩ asJson operands)
  | lines (told : Printed) (level : LogLevel) :
      Plan.Serves bench (Plan.lines ⟨bench, told, level⟩)

section Using

variable {surroundings : Surroundings} {words : List String}
  {command : Command} {arguments : Arguments} {configuration : Configuration}

theorem serves_of_usable
    (calls : Calls surroundings words command arguments configuration)
    (other : command ≠ propertiesCommand) {bench : Bench}
    (usable : verdict surroundings configuration = Except.ok bench) :
    Plan.Serves bench (plan surroundings words) := by
  obtain ⟨level, prepared⟩ := prepare_of_gathered calls.gathered
  rw [usable] at prepared
  rw [calls.planned, planFor, if_neg other, prepared]
  by_cases inLines : command = replCommand
  · simp only [if_pos inLines]
    exact Plan.Serves.lines _ level
  · simp only [if_neg inLines]
    exact Plan.Serves.once _ level _ _

/-- Every run ends with a message, in the way of errors that were foreseen. -/
def Tells (surroundings : Surroundings) (words : List String)
    (arguments : Arguments) (message : String) : Prop :=
  ∀ input, Ends (run surroundings words input)
    (notices surroundings arguments ++
      Printed.toErrors [labelled "Error" message]) 2 none

theorem tells_of_obstacle
    (calls : Calls surroundings words command arguments configuration)
    (other : command ≠ propertiesCommand) {obstacle : Obstacle}
    {message : String} (told : obstacle.report? = some message)
    (stops : verdict surroundings configuration =
      Except.error (Refusal.ofObstacle obstacle)) :
    Tells surroundings words arguments message := by
  have refusal : Refusal.ofObstacle obstacle =
      ⟨Printed.toErrors [labelled "Error" message], 2, none⟩ := by
    rw [Refusal.ofObstacle, told]
  rw [refusal] at stops
  exact run_of_refused calls other stops

/-! ## The named table -/

/-- A configuration that asks for the table at a path, and for a level of the log
that can be written. -/
structure Names (configuration : Configuration) (path : String) : Prop where
  static : ResolverChoice.kind configuration = Value.text "static"
  path : ResolverChoice.given? configuration "styles_file" =
    some (Value.text path)
  level : ((configuration.field? "log_level").getD
    (Value.text "WARNING")).display? ≠ none

variable {path : String}

theorem ofConfiguration_of_names (names : Names configuration path) :
    ResolverChoice.ofConfiguration surroundings configuration =
      (StyleTable.load surroundings path).map ResolverChoice.table := by
  have static := names.static
  rw [ResolverChoice.ofConfiguration, static]
  simp only [Value.text, ResolverChoice.ofTable, names.path]
  show (StyleTable.load surroundings path >>= fun table =>
    pure (ResolverChoice.table table)) = _
  cases StyleTable.load surroundings path with
  | error obstacle => rfl
  | ok table => rfl

theorem verdict_of_benchOf_eq_ok (names : Names configuration path)
    {bench : Bench}
    (usable : benchOf surroundings configuration = Except.ok bench) :
    verdict surroundings configuration = Except.ok bench := by
  obtain ⟨level, written⟩ := Option.ne_none_iff_exists'.mp names.level
  simp only [verdict, written, usable]

theorem verdict_of_benchOf_eq_error (names : Names configuration path)
    {obstacle : Obstacle}
    (stops : benchOf surroundings configuration = Except.error obstacle) :
    verdict surroundings configuration =
      Except.error (Refusal.ofObstacle obstacle) := by
  obtain ⟨level, written⟩ := Option.ne_none_iff_exists'.mp names.level
  simp only [verdict, written, stops]

theorem benchOf_of_load_eq_error (names : Names configuration path)
    {obstacle : Obstacle}
    (stops : StyleTable.load surroundings path = Except.error obstacle) :
    benchOf surroundings configuration = Except.error obstacle := by
  rw [benchOf, ofConfiguration_of_names names, stops]
  rfl

theorem benchOf_of_load_eq_ok (names : Names configuration path)
    {table : StyleTable}
    (loads : StyleTable.load surroundings path = Except.ok table) :
    benchOf surroundings configuration =
      match configuration.settings with
      | Except.ok settings =>
          Except.ok (Bench.create settings (ResolverChoice.table table))
      | Except.error complaints =>
          Except.error (Obstacle.invalid complaints) := by
  rw [benchOf, ofConfiguration_of_names names, loads]
  rfl

theorem ends_of_untold
    (calls : Calls surroundings words command arguments configuration)
    (other : command ≠ propertiesCommand)
    (names : Names configuration path) {obstacle : Obstacle}
    (stops : StyleTable.load surroundings path = Except.error obstacle)
    (untold : obstacle.report? = none) (input : String) :
    Ends (run surroundings words input) (notices surroundings arguments) 1
      (some obstacle.name) := by
  have refused := verdict_of_benchOf_eq_error names
    (benchOf_of_load_eq_error names stops)
  rw [Refusal.ofObstacle, untold] at refused
  have ends := run_of_refused calls other refused input
  rwa [Printed.append_nothing] at ends

/-- What a run does about the table at a path. -/
structure Accounts (surroundings : Surroundings) (words : List String)
    (arguments : Arguments) (configuration : Configuration) (path : String) :
    Prop where
  /-- The table is loaded, and used unless the settings do not fit, or there is a
  message about it. -/
  foreseen :
    (∀ name, ¬ StyleTable.UnforeseenAt surroundings (Path.tidy path) name) →
      (∃ table, StyleTable.load surroundings path = Except.ok table ∧
        ((∃ settings, configuration.settings = Except.ok settings ∧
            Plan.Serves (Bench.create settings (ResolverChoice.table table))
              (plan surroundings words)) ∨
          ∃ complaints, configuration.settings = Except.error complaints ∧
            Tells surroundings words arguments complaints.headline)) ∨
      ∃ obstacle message,
        StyleTable.load surroundings path = Except.error obstacle ∧
          obstacle.report? = some message ∧
            Tells surroundings words arguments message
  /-- Every run ends under the name of what nobody foresaw. -/
  unforeseen : ∀ name,
    StyleTable.UnforeseenAt surroundings (Path.tidy path) name → ∀ input,
      Ends (run surroundings words input) (notices surroundings arguments) 1
        (some name)

theorem accounts_for_named_table
    (calls : Calls surroundings words command arguments configuration)
    (other : command ≠ propertiesCommand)
    (names : Names configuration path) :
    Accounts surroundings words arguments configuration path where
  foreseen foreseen := by
    have notUntold : ∀ name, ¬ StyleTable.EndsUntold
        (StyleTable.load surroundings path) name := fun name untold =>
      foreseen name (StyleTable.endsUntold_load_iff.mp untold)
    rcases StyleTable.loaded_or_told notUntold with
      ⟨table, loads⟩ | ⟨obstacle, message, stops, told⟩
    · refine Or.inl ⟨table, loads, ?_⟩
      have made := benchOf_of_load_eq_ok names loads
      cases read : configuration.settings with
      | ok settings =>
          rw [read] at made
          have usable := verdict_of_benchOf_eq_ok names made
          exact Or.inl ⟨settings, rfl, serves_of_usable calls other usable⟩
      | error complaints =>
          rw [read] at made
          have refused := verdict_of_benchOf_eq_error names made
          exact Or.inr
            ⟨complaints, rfl, tells_of_obstacle calls other rfl refused⟩
    · have refused := verdict_of_benchOf_eq_error names
        (benchOf_of_load_eq_error names stops)
      exact Or.inr ⟨obstacle, message, stops, told,
        tells_of_obstacle calls other told refused⟩
  unforeseen name unforeseen input := by
    obtain ⟨obstacle, stops, untold, rfl⟩ :=
      StyleTable.endsUntold_load_iff.mpr unforeseen
    exact ends_of_untold calls other names stops untold input

end Using

/-! ## Two tables named by a variable -/

/-- Surroundings where a variable names a table with the given text. -/
def variableTable (text : String) : Surroundings :=
  { Surroundings.empty with
    entry? := fun path =>
      if path = "table.yaml" then some (Entry.file text) else none
    environment := fun name =>
      if name = "TW2CSS_STYLES_FILE" then some "table.yaml" else none }

/-- The configuration there. -/
def variableConfiguration : Configuration :=
  Configuration.layered [Configuration.usual, OrderedMap.empty,
    OrderedMap.empty,
    OrderedMap.ofList [(Atom.text "styles_file", Value.text "table.yaml")],
    OrderedMap.empty]

theorem calls_variableTable (text : String) :
    Calls (variableTable text) ["convert", "p-4"] convertCommand
      ⟨[], ["p-4"]⟩ variableConfiguration :=
  ⟨rfl, rfl⟩

theorem names_variableConfiguration :
    Names variableConfiguration "table.yaml" :=
  ⟨rfl, rfl, by decide +kernel⟩

theorem load_variableTable (text : String) :
    StyleTable.load (variableTable text) "table.yaml" =
      StyleTable.ofText Yaml.reader "table.yaml" text := by
  have tidy : Path.tidy "table.yaml" = "table.yaml" := by decide +kernel
  rw [StyleTable.load, tidy]
  rfl

/-- A list in place of a table is told of. -/
theorem accounts_for_named_table_list :
    convertCommand ≠ propertiesCommand ∧
    Calls (variableTable "[]") ["convert", "p-4"] convertCommand
      ⟨[], ["p-4"]⟩ variableConfiguration ∧
    Names variableConfiguration "table.yaml" ∧
    Tells (variableTable "[]") ["convert", "p-4"] ⟨[], ["p-4"]⟩
      "Invalid style table: missing top-level 'styles' key in table.yaml" := by
  have calls := calls_variableTable "[]"
  have other : convertCommand ≠ propertiesCommand := by decide
  have names := names_variableConfiguration
  have loads : Yaml.reader.load "[]" = Except.ok (Value.list []) := by cbv
  have stops : StyleTable.load (variableTable "[]") "table.yaml" =
      Except.error (Obstacle.unfit
        "Invalid style table: missing top-level 'styles' key in table.yaml") := by
    rw [load_variableTable, StyleTable.ofText, loads]
    rfl
  have accounts := accounts_for_named_table calls other names
  refine ⟨other, calls, names, ?_⟩
  have foreseen : ∀ name, ¬ StyleTable.UnforeseenAt (variableTable "[]")
      (Path.tidy "table.yaml") name := by
    intro name unforeseen
    have untold := StyleTable.endsUntold_load_iff.mpr unforeseen
    rw [stops] at untold
    exact StyleTable.not_endsUntold_of_report? rfl untold
  rcases accounts.foreseen foreseen with
    ⟨table, made, _⟩ | ⟨obstacle, message, stops', told, tells⟩
  · cases stops.symm.trans made
  · obtain rfl := Except.error.inj (stops.symm.trans stops')
    obtain rfl := Option.some.inj told
    exact tells

/-- A text outside the language of tables ends every run without a message. -/
theorem not_told_unclosed :
    StyleTable.load (variableTable "styles: [") "table.yaml" =
        Except.error Obstacle.malformed ∧
      Obstacle.malformed.report? = none ∧
      ∀ input,
        Ends (run (variableTable "styles: [") ["convert", "p-4"] input)
          Printed.nothing 1 (some "YAMLError") := by
  have loads : Yaml.reader.load "styles: [" =
      Except.error (Yaml.Problem.malformed "expected a node") := by
    cbv
  have stops : StyleTable.load (variableTable "styles: [") "table.yaml" =
      Except.error Obstacle.malformed := by
    rw [load_variableTable, StyleTable.ofText, loads]
    rfl
  refine ⟨stops, rfl, fun input => ?_⟩
  exact ends_of_untold (calls_variableTable "styles: [") (by decide)
    names_variableConfiguration stops rfl input

end UtilityCss.CommandLine

import UtilityCss.Proofs.CommandLine.Dialogue

/-!
# A dialogue repeats the conversion of one text

Two ways to call the program end in the same configuration.  One converts its
whole input, the other serves it line by line; for a configuration that selects
a style table both print the same for every line.
-/

namespace UtilityCss.CommandLine

theorem Printed.append_eq (first second : Printed) :
    first ++ second =
      ⟨first.output ++ second.output, first.errors ++ second.errors⟩ :=
  rfl

theorem Printed.append_nothing (printed : Printed) :
    printed ++ Printed.nothing = printed := by
  rw [Printed.append_eq, Printed.nothing, List.append_nil, List.append_nil]

/-! ## Getting ready -/

/-- What is told while the configuration is put together. -/
def notices (surroundings : Surroundings) (arguments : Arguments) : Printed :=
  Printed.toErrors
    ((Configuration.gather surroundings (request arguments)).1.map Notice.text)

/-- What keeps a configuration from being used: what is printed, the exit code,
and the name of the error if nobody expected it. -/
structure Refusal where
  printed : Printed
  exitCode : Nat
  unexpected : Option String

/-- A run that ends because of what keeps its configuration from being used. -/
def Refusal.outcome (refusal : Refusal) (told : Printed) (level : LogLevel) :
    Outcome :=
  ⟨told ++ refusal.printed, refusal.exitCode, level, refusal.unexpected⟩

/-- Why there is no bench for a configuration. -/
def Refusal.ofObstacle (obstacle : Obstacle) : Refusal :=
  match obstacle.report? with
  | some message => ⟨Printed.toErrors [labelled "Error" message], 2, none⟩
  | none => ⟨Printed.nothing, 1, some obstacle.name⟩

/-- The bench for a configuration, or why there is none.  Nobody reports a level
of the log that cannot be written. -/
def verdict (surroundings : Surroundings) (configuration : Configuration) :
    Except Refusal Bench :=
  match ((configuration.field? "log_level").getD
      (Value.text "WARNING")).display? with
  | none =>
      Except.error
        ⟨Printed.nothing, 1, some (Obstacle.unfit Value.unwritable).name⟩
  | some _ =>
      match benchOf surroundings configuration with
      | Except.ok bench => Except.ok bench
      | Except.error obstacle => Except.error (Refusal.ofObstacle obstacle)

section Preparing

variable {surroundings : Surroundings} {configuration : Configuration}
  {arguments : Arguments}

/-- Whether there is a bench depends on the configuration alone. -/
theorem prepare_of_gathered
    (gathered : (Configuration.gather surroundings (request arguments)).2 =
      Except.ok configuration) :
    ∃ level, prepare surroundings arguments =
      match verdict surroundings configuration with
      | Except.ok bench =>
          Except.ok ⟨bench, notices surroundings arguments, level⟩
      | Except.error refusal =>
          Except.error
            (refusal.outcome (notices surroundings arguments) level) := by
  rw [prepare, notices, verdict]
  generalize Configuration.gather surroundings (request arguments) = found
    at gathered ⊢
  obtain ⟨told, outcome⟩ := found
  obtain rfl : outcome = Except.ok configuration := gathered
  simp only [LogLevel.chosen?]
  cases ((configuration.field? "log_level").getD
      (Value.text "WARNING")).display? with
  | none =>
      refine ⟨LogLevel.warning, ?_⟩
      simp only [Refusal.outcome, Printed.append_nothing]
      rfl
  | some name =>
      cases benchOf surroundings configuration with
      | ok bench => exact ⟨_, rfl⟩
      | error obstacle =>
          simp only [Refusal.outcome, Refusal.ofObstacle]
          cases obstacle.report? with
          | some message => exact ⟨_, rfl⟩
          | none =>
              simp only [Printed.append_nothing]
              exact ⟨_, rfl⟩

end Preparing

/-! ## Two ways to call the program -/

/-- How a run ends, whatever it logs. -/
structure Ends (outcome : Outcome) (printed : Printed) (exitCode : Nat)
    (unexpected : Option String) : Prop where
  printed : outcome.printed = printed
  exitCode : outcome.exitCode = exitCode
  unexpected : outcome.unexpected = unexpected

section Running

variable {surroundings : Surroundings} {words : List String}
  {command : Command} {arguments : Arguments} {configuration : Configuration}

/-- The program is called for a command, and ends in a configuration. -/
structure Calls (surroundings : Surroundings) (words : List String)
    (command : Command) (arguments : Arguments)
    (configuration : Configuration) : Prop where
  planned : plan surroundings words =
    planFor surroundings command arguments
  gathered : (Configuration.gather surroundings (request arguments)).2 =
    Except.ok configuration

theorem run_of_refused
    (calls : Calls surroundings words command arguments configuration)
    (other : command ≠ propertiesCommand) {refusal : Refusal}
    (refused : verdict surroundings configuration = Except.error refusal)
    (input : String) :
    Ends (run surroundings words input)
      (notices surroundings arguments ++ refusal.printed) refusal.exitCode
      refusal.unexpected := by
  obtain ⟨level, prepared⟩ := prepare_of_gathered calls.gathered
  rw [refused] at prepared
  rw [run, calls.planned, planFor, if_neg other, prepared]
  exact ⟨rfl, rfl, rfl⟩

theorem run_of_lines
    (calls : Calls surroundings words replCommand arguments configuration)
    {bench : Bench}
    (usable : verdict surroundings configuration = Except.ok bench)
    {input : String} {printed : Printed} {obstacle : Option Obstacle}
    (serves : bench.serveLines (inputLines input) = (printed, obstacle)) :
    Ends (run surroundings words input)
      (notices surroundings arguments ++ printed)
      (if obstacle.isSome then 1 else 0) (obstacle.map Obstacle.name) := by
  obtain ⟨level, prepared⟩ := prepare_of_gathered calls.gathered
  have other : replCommand ≠ propertiesCommand := by decide
  rw [usable] at prepared
  rw [run, calls.planned, planFor, if_neg other, prepared]
  simp only [if_pos, serves]
  cases obstacle with
  | none => exact ⟨rfl, rfl, rfl⟩
  | some obstacle => exact ⟨rfl, rfl, rfl⟩

theorem printed_run_of_once
    (calls : Calls surroundings words convertCommand arguments configuration)
    (wholeInput : arguments.operands = [])
    (inWords : arguments.count "--json" = 0) {bench : Bench}
    (usable : verdict surroundings configuration = Except.ok bench)
    (input : String) :
    (run surroundings words input).printed =
      notices surroundings arguments ++
        (convertOnce bench false (textToConvert [] input)).1 := by
  obtain ⟨level, prepared⟩ := prepare_of_gathered calls.gathered
  have other : convertCommand ≠ propertiesCommand := by decide
  have once : convertCommand ≠ replCommand := by decide
  rw [usable] at prepared
  rw [run, calls.planned, planFor, if_neg other, prepared]
  simp only [if_neg once, wholeInput, inWords, bne_self_eq_false]
  rfl

end Running

/-! ## Benches with a style table -/

section Tables

variable {surroundings : Surroundings} {configuration : Configuration}

theorem exists_of_bind_eq_ok {ε α β : Type} {first : Except ε α}
    {next : α → Except ε β} {result : β}
    (bound : first >>= next = Except.ok result) :
    ∃ value, first = Except.ok value ∧ next value = Except.ok result := by
  cases first with
  | error fault => cases bound
  | ok value => exact ⟨value, rfl, bound⟩

theorem exists_table_of_ofTable {choice : ResolverChoice}
    (chosen : ResolverChoice.ofTable surroundings configuration =
      Except.ok choice) : ∃ table, choice = ResolverChoice.table table := by
  rw [ResolverChoice.ofTable] at chosen
  split at chosen
  · exact ⟨StyleTable.core, (Except.ok.inj chosen).symm⟩
  · obtain ⟨path, _, loads⟩ := exists_of_bind_eq_ok chosen
    obtain ⟨table, _, made⟩ := exists_of_bind_eq_ok loads
    exact ⟨table, (Except.ok.inj made).symm⟩

theorem benchOf_of_verdict {bench : Bench}
    (usable : verdict surroundings configuration = Except.ok bench) :
    benchOf surroundings configuration = Except.ok bench := by
  rw [verdict] at usable
  split at usable
  · cases usable
  · split at usable
    · rename_i other made
      rw [made, Except.ok.inj usable]
    · cases usable

/-- A configuration that selects a style table gets a bench with one. -/
theorem exists_table_of_verdict {bench : Bench}
    (static : ResolverChoice.kind configuration = Value.text "static")
    (usable : verdict surroundings configuration = Except.ok bench) :
    ∃ settings table,
      bench = Bench.create settings (ResolverChoice.table table) := by
  obtain ⟨choice, chosen, made⟩ :=
    exists_of_bind_eq_ok (benchOf_of_verdict usable)
  rw [ResolverChoice.ofConfiguration, static] at chosen
  obtain ⟨table, rfl⟩ := exists_table_of_ofTable chosen
  split at made
  · rename_i settings read
    exact ⟨settings, table, (Except.ok.inj made).symm⟩
  · cases made

end Tables

/-! ## Repetition -/

/-- What the words `dialogue` print for an input, against what the words `single`
print for its lines. -/
structure Repeats (surroundings : Surroundings)
    (dialogue single : List String) (told toldOnce : Printed)
    (configuration : Configuration) : Prop where
  /-- What cannot be used is refused alike. -/
  refused : ∀ refusal,
    verdict surroundings configuration = Except.error refusal → ∀ input,
      Ends (run surroundings dialogue input) (told ++ refusal.printed)
          refusal.exitCode refusal.unexpected ∧
        Ends (run surroundings single input) (toldOnce ++ refusal.printed)
          refusal.exitCode refusal.unexpected
  /-- Every line that is handled is answered: a text as the single conversion of
  that line does, and the others by the lookups of the lines before.  Only a
  capacity that cannot be written cuts this short, where a line asks for it
  first. -/
  repeated : ∀ bench,
    verdict surroundings configuration = Except.ok bench →
      ∃ once : String → Printed,
        (∀ input, ∀ line ∈ inputLines input,
          (run surroundings single line).printed = toldOnce ++ once line) ∧
        ∀ input,
          let settings := bench.processor.settings
          let answers := Bench.transcript once
            (fun earlier => CacheStatus.ofLookups settings.cacheCapacity
              (Bench.lookupsOf settings.maxInputLength earlier)) []
          let lines := Bench.handled (inputLines input)
          let complete := Text.isWritable settings.cacheCapacity = true ∨
            Bench.unasked lines = lines
          (complete →
            Ends (run surroundings dialogue input) (told ++ answers lines) 0
              none) ∧
          (¬ complete →
            Ends (run surroundings dialogue input)
              (told ++ answers (Bench.unasked lines)) 1 (some "ValueError"))

section Repetition

variable {surroundings : Surroundings} {dialogue single : List String}
  {arguments options : Arguments} {configuration : Configuration}

/-- Serving an input line by line repeats the conversion of each line by itself,
for every configuration that selects a style table. -/
theorem dialogue_repeats_conversion
    (serves : Calls surroundings dialogue replCommand arguments configuration)
    (converts : Calls surroundings single convertCommand options configuration)
    (wholeInput : options.operands = [])
    (inWords : options.count "--json" = 0)
    (static : ResolverChoice.kind configuration = Value.text "static") :
    Repeats surroundings dialogue single (notices surroundings arguments)
      (notices surroundings options) configuration where
  refused refusal refused input :=
    ⟨run_of_refused serves (by decide) refused input,
      run_of_refused converts (by decide) refused input⟩
  repeated bench usable := by
    obtain ⟨settings, table, rfl⟩ := exists_table_of_verdict static usable
    have fresh := Bench.tells_create settings table
    refine ⟨Bench.alone settings table, ?_, ?_⟩
    · intro input line isLine
      rw [printed_run_of_once converts wholeInput inWords usable,
        textToConvert_of_mem_inputLines isLine, convertOnce]
      simp only [(fresh.convert line).1, fresh.highlighting]
      rfl
    · intro input
      refine ⟨fun told => ?_, fun untold => ?_⟩
      · exact run_of_lines serves usable (Bench.serveLines_of_told table told)
      · exact run_of_lines serves usable
          (Bench.serveLines_of_untold table untold)

/-- The configuration where nothing is set. -/
def unset : Configuration :=
  Configuration.layered [Configuration.usual, OrderedMap.empty,
    OrderedMap.empty, OrderedMap.empty, OrderedMap.empty]

/-- Without files, variables and options the built-in table is selected. -/
theorem dialogue_repeats_conversion_unset :
    Calls Surroundings.empty ["repl"] replCommand ⟨[], []⟩ unset ∧
      Calls Surroundings.empty ["convert"] convertCommand ⟨[], []⟩ unset ∧
        ResolverChoice.kind unset = Value.text "static" ∧
          Repeats Surroundings.empty ["repl"] ["convert"]
            (notices Surroundings.empty ⟨[], []⟩)
            (notices Surroundings.empty ⟨[], []⟩) unset := by
  have serves : Calls Surroundings.empty ["repl"] replCommand ⟨[], []⟩ unset :=
    ⟨rfl, rfl⟩
  have converts :
      Calls Surroundings.empty ["convert"] convertCommand ⟨[], []⟩ unset :=
    ⟨rfl, rfl⟩
  have static : ResolverChoice.kind unset = Value.text "static" := rfl
  exact ⟨serves, converts, static,
    dialogue_repeats_conversion serves converts rfl rfl static⟩

end Repetition

end UtilityCss.CommandLine

import UtilityCss.Configuration.Layers

/-!
# Where a configuration comes from

Two files contribute to a configuration: one for all folders, and the one in the
closest folder, going up, that has anything under its name.  A configuration is
put together exactly if both files can be read, and then a file counts only for
the mapping in it.  What a text means is left to the reader in the surroundings.
-/

namespace UtilityCss

/-! ## Going up -/

namespace Surroundings

/-- What stands under a name in the closest folder that has anything there, going
up through folders of which the closest comes first. -/
inductive FoundUpward (surroundings : Surroundings) (name : String) :
    List String → Option Entry → Prop
  | nowhere : FoundUpward surroundings name [] none
  | here {folder : String} {farther : List String} {entry : Entry}
      (stands : surroundings.entry? (folder ++ "/" ++ name) = some entry) :
      FoundUpward surroundings name (folder :: farther) (some entry)
  | above {folder : String} {farther : List String} {found : Option Entry}
      (missing : surroundings.entry? (folder ++ "/" ++ name) = none)
      (upward : FoundUpward surroundings name farther found) :
      FoundUpward surroundings name (folder :: farther) found

theorem foundUpward_iff (surroundings : Surroundings) (name : String)
    (folders : List String) (found : Option Entry) :
    surroundings.FoundUpward name folders found ↔
      (((folders.map fun folder => folder ++ "/" ++ name).find? fun path =>
        (surroundings.entry? path).isSome).bind surroundings.entry?) = found := by
  induction folders with
  | nil =>
      constructor
      · rintro ⟨⟩
        rfl
      · rintro rfl
        exact FoundUpward.nowhere
  | cons folder farther inductionHypothesis =>
      rw [List.map_cons, List.find?_cons]
      cases stands : surroundings.entry? (folder ++ "/" ++ name) with
      | none =>
          simp only [Option.isSome_none]
          rw [← inductionHypothesis]
          constructor
          · rintro (_ | stands' | ⟨_, upward⟩)
            · rw [stands] at stands'
              cases stands'
            · exact upward
          · exact FoundUpward.above stands
      | some entry =>
          simp only [Option.isSome_some, Option.bind_some, stands]
          constructor
          · rintro (_ | stands' | ⟨missing, _⟩)
            · exact stands.symm.trans stands'
            · rw [stands] at missing
              cases missing
          · rintro rfl
            exact FoundUpward.here stands

end Surroundings

namespace Configuration

/-! ## Files -/

section Reading

variable (reader : Yaml.Reader)

/-- If a file stands here, its text has a value, or is outside the configuration
language. -/
def Readable (entry : Option Entry) : Prop :=
  ∀ text name message, entry = some (Entry.file text) →
    reader.load text ≠ Except.error (Yaml.Problem.unusable name message)

/-- The mapping in the file that stands here; without a file that holds one it is
empty. -/
def mappingIn : Option Entry → Configuration
  | some (Entry.file text) =>
      match reader.load text with
      | Except.ok value => ⟨value.entries?.getD []⟩
      | Except.error _ => OrderedMap.empty
  | _ => OrderedMap.empty

section Loading

variable {reader} {text : String} {value : Value}
  (loads : reader.load text = Except.ok value)

include loads

theorem readable_file : Readable reader (some (Entry.file text)) := by
  rintro _ name message ⟨⟩ stops
  rw [loads] at stops
  cases stops

theorem mappingIn_file :
    mappingIn reader (some (Entry.file text)) =
      ⟨value.entries?.getD []⟩ := by
  rw [mappingIn, loads]

end Loading

theorem distinct_mappingIn (entry : Option Entry) :
    (mappingIn reader entry).Distinct := by
  have nothing : (OrderedMap.empty : Configuration).Distinct :=
    List.Pairwise.nil
  rw [mappingIn.eq_def]
  split
  · split
    · rename_i value loads
      cases found : value.entries? with
      | none => exact nothing
      | some entries => exact reader.distinct loads entries found
    · exact nothing
  · exact nothing

/-- What a file contributes, whatever is told about it. -/
def contribution (entry : Option Entry) : Except Obstacle Configuration :=
  (ofFile reader "" entry).map Prod.fst

theorem map_fst_ofFile (path : String) (entry : Option Entry) :
    (ofFile reader path entry).map Prod.fst = contribution reader entry := by
  cases entry with
  | none => rfl
  | some entry =>
      cases entry with
      | folder => rfl
      | locked => rfl
      | file text =>
          rw [contribution, ofFile, ofFile]
          cases reader.load text with
          | ok value =>
              simp only
              cases value.entries? <;> rfl
          | error problem => cases problem <;> rfl

variable {reader}

theorem contribution_of_readable {entry : Option Entry}
    (readable : Readable reader entry) :
    contribution reader entry = Except.ok (mappingIn reader entry) := by
  cases entry with
  | none => rfl
  | some entry =>
      cases entry with
      | folder => rfl
      | locked => rfl
      | file text =>
          rw [contribution, ofFile, mappingIn]
          cases loads : reader.load text with
          | ok value =>
              simp only
              cases value.entries? <;> rfl
          | error problem =>
              cases problem with
              | malformed reason => rfl
              | unusable name message =>
                  exact absurd loads (readable text name message rfl)

theorem contribution_of_not_readable {entry : Option Entry}
    (unreadable : ¬ Readable reader entry) :
    ∃ obstacle, contribution reader entry = Except.error obstacle := by
  simp only [Readable, Classical.not_forall, ne_eq, Classical.not_not] at unreadable
  obtain ⟨text, name, message, rfl, loads⟩ := unreadable
  exact ⟨Obstacle.other name message, by rw [contribution, ofFile, loads]; rfl⟩

end Reading

/-! ## Putting layers together -/

section Gathering

variable (surroundings : Surroundings) (request : List (Atom × Value))

/-- What stands under the name of a project file in the closest folder that has
anything there. -/
def projectEntry : Option Entry :=
  (surroundings.closest? projectFileName).bind surroundings.entry?

theorem foundUpward_projectEntry {found : Option Entry} :
    surroundings.FoundUpward projectFileName surroundings.folders found ↔
      projectEntry surroundings = found :=
  surroundings.foundUpward_iff projectFileName surroundings.folders found

/-- Both files that a configuration comes from can be read. -/
structure Legible : Prop where
  global : Readable surroundings.reader
    (surroundings.entry? surroundings.globalFile)
  project : ∀ found,
    surroundings.FoundUpward projectFileName surroundings.folders found →
      Readable surroundings.reader found

theorem legible_iff :
    Legible surroundings ↔
      Readable surroundings.reader
          (surroundings.entry? surroundings.globalFile) ∧
        Readable surroundings.reader (projectEntry surroundings) := by
  constructor
  · intro legible
    refine ⟨legible.global, legible.project _ ?_⟩
    rw [foundUpward_projectEntry]
  · rintro ⟨global, project⟩
    refine ⟨global, fun found upward => ?_⟩
    rw [foundUpward_projectEntry] at upward
    rwa [← upward]

theorem map_fst_ofProjectFile :
    (ofProjectFile surroundings).map Prod.fst =
      contribution surroundings.reader (projectEntry surroundings) := by
  rw [ofProjectFile, projectEntry]
  cases surroundings.closest? projectFileName with
  | none => rfl
  | some path => exact map_fst_ofFile surroundings.reader path _

theorem snd_gather :
    (gather surroundings request).2 =
      (do
        let global ←
          contribution surroundings.reader
            (surroundings.entry? surroundings.globalFile)
        let project ←
          contribution surroundings.reader (projectEntry surroundings)
        return layered
          [usual, global, project, (ofVariables surroundings).1,
            ofRequest request]) := by
  rw [← map_fst_ofProjectFile,
    ← map_fst_ofFile surroundings.reader surroundings.globalFile, gather,
    ofGlobalFile]
  cases ofFile surroundings.reader surroundings.globalFile
      (surroundings.entry? surroundings.globalFile) with
  | error obstacle => rfl
  | ok global =>
      cases ofProjectFile surroundings with
      | error obstacle => rfl
      | ok project => rfl

/-- What a configuration is put together from when both files can be read. -/
theorem gather_of_legible (legible : Legible surroundings) :
    (gather surroundings request).2 =
      Except.ok (layered
        [usual,
          mappingIn surroundings.reader
            (surroundings.entry? surroundings.globalFile),
          mappingIn surroundings.reader (projectEntry surroundings),
          (ofVariables surroundings).1, ofRequest request]) := by
  obtain ⟨global, project⟩ := (legible_iff surroundings).mp legible
  rw [snd_gather, contribution_of_readable global,
    contribution_of_readable project]
  rfl

theorem gather_of_not_legible (illegible : ¬ Legible surroundings) :
    ∃ obstacle, (gather surroundings request).2 = Except.error obstacle := by
  rw [snd_gather]
  by_cases global : Readable surroundings.reader
      (surroundings.entry? surroundings.globalFile)
  · have project :
        ¬ Readable surroundings.reader (projectEntry surroundings) :=
      fun readable =>
        illegible ((legible_iff surroundings).mpr ⟨global, readable⟩)
    obtain ⟨obstacle, stops⟩ := contribution_of_not_readable project
    rw [contribution_of_readable global, stops]
    exact ⟨obstacle, rfl⟩
  · obtain ⟨obstacle, stops⟩ := contribution_of_not_readable global
    rw [stops]
    exact ⟨obstacle, rfl⟩

end Gathering

end Configuration

end UtilityCss

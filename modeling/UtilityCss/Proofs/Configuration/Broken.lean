import Mathlib
import UtilityCss.Proofs.Configuration.Sources

/-!
# Broken configuration files

A file without a value, or with one that is no mapping, counts as if nothing were
in it, and the configuration is put together from the other sources.  The
exception are scalars that have the right form but no value, as a day that the
calendar does not have: such a file keeps every configuration from being put
together.
-/

namespace UtilityCss

/-- Surroundings with something else at one path. -/
def Surroundings.put (surroundings : Surroundings) (path : String)
    (entry : Entry) : Surroundings :=
  { surroundings with
    entry? := fun other =>
      if other = path then some entry else surroundings.entry? other }

namespace Configuration

/-- A text without a value, or with one that is no mapping. -/
def Broken (reader : Yaml.Reader) (text : String) : Prop :=
  ∀ value, reader.load text = Except.ok value → value.entries? = none

theorem mappingIn_of_broken {reader : Yaml.Reader} {text : String}
    (broken : Broken reader text) :
    mappingIn reader (some (Entry.file text)) = OrderedMap.empty := by
  rw [mappingIn]
  cases loads : reader.load text with
  | error problem => rfl
  | ok value =>
      simp only [broken value loads, Option.getD_none]
      rfl

section Replacing

variable (surroundings : Surroundings) (path : String)

/-- Which folder has a project file does not depend on what is in the files. -/
theorem closest?_put (first second : Entry) (name : String) :
    (surroundings.put path first).closest? name =
      (surroundings.put path second).closest? name := by
  rw [Surroundings.closest?, Surroundings.closest?]
  congr 1
  funext other
  simp only [Surroundings.put]
  split <;> rfl

variable {first second : Entry}
  (alike : contribution surroundings.reader (some first) =
    contribution surroundings.reader (some second))

include alike

theorem contribution_entry?_put (other : String) :
    contribution surroundings.reader
        (Surroundings.entry? (surroundings.put path first) other) =
      contribution surroundings.reader
        (Surroundings.entry? (surroundings.put path second) other) := by
  simp only [Surroundings.put]
  split
  · exact alike
  · rfl

theorem contribution_projectEntry_put :
    contribution surroundings.reader
        (projectEntry (surroundings.put path first)) =
      contribution surroundings.reader
        (projectEntry (surroundings.put path second)) := by
  rw [projectEntry, projectEntry, closest?_put surroundings path first second]
  cases (surroundings.put path second).closest? projectFileName with
  | none => rfl
  | some found => exact contribution_entry?_put surroundings path alike found

/-- What contributes the same can take the place of a file anywhere. -/
theorem snd_gather_put (request : List (Atom × Value)) :
    (gather (surroundings.put path first) request).2 =
      (gather (surroundings.put path second) request).2 := by
  have global :=
    contribution_entry?_put surroundings path alike surroundings.globalFile
  have project := contribution_projectEntry_put surroundings path alike
  -- only what stands at the path differs between the two
  have same : ∀ entry, (surroundings.put path entry).globalFile =
      surroundings.globalFile := fun _ => rfl
  have reads : ∀ entry, (surroundings.put path entry).reader =
      surroundings.reader := fun _ => rfl
  rw [snd_gather, snd_gather, reads, reads, same, same, global, project]
  rfl

end Replacing

/-- What broken files do to the configuration for a request. -/
structure Forgives (surroundings : Surroundings)
    (request : List (Atom × Value)) : Prop where
  /-- Only scalars without a value keep it from being put together. -/
  gathers : (∃ configuration,
    (gather surroundings request).2 = Except.ok configuration) ↔
      Legible surroundings
  /-- Any other broken file counts as if a folder stood there instead. -/
  forgiven : ∀ path text, Broken surroundings.reader text →
    Readable surroundings.reader (some (Entry.file text)) →
    (gather (surroundings.put path (Entry.file text)) request).2 =
      (gather (surroundings.put path Entry.folder) request).2

theorem forgives (surroundings : Surroundings)
    (request : List (Atom × Value)) : Forgives surroundings request where
  gathers := by
    constructor
    · rintro ⟨configuration, gathers⟩
      refine Classical.byContradiction fun illegible => ?_
      obtain ⟨obstacle, stops⟩ :=
        gather_of_not_legible surroundings request illegible
      rw [gathers] at stops
      cases stops
    · intro legible
      exact ⟨_, gather_of_legible surroundings request legible⟩
  forgiven path text broken readable := by
    refine snd_gather_put surroundings path ?_ request
    rw [contribution_of_readable readable, mappingIn_of_broken broken]
    rfl

/-- Surroundings with nothing but a path for the file for all folders. -/
def bare : Surroundings :=
  { Surroundings.empty with globalFile := "home/config.yaml" }

theorem forgives_unclosed :
    Broken bare.reader "[" ∧ Readable bare.reader (some (Entry.file "[")) ∧
      (gather (bare.put "home/config.yaml" (Entry.file "[")) []).2 =
        (gather (bare.put "home/config.yaml" Entry.folder) []).2 := by
  have loads : bare.reader.load "[" =
      Except.error (Yaml.Problem.malformed "expected a node") := by
    cbv
  have broken : Broken bare.reader "[" := by
    intro value made
    rw [loads] at made
    cases made
  have readable : Readable bare.reader (some (Entry.file "[")) := by
    rintro _ name message ⟨⟩ stops
    rw [loads] at stops
    cases stops
  exact ⟨broken, readable,
    (forgives bare []).forgiven "home/config.yaml" "[" broken readable⟩

/-- A day that the calendar does not have is not forgiven: with a folder in place
of the file there is a configuration, and with the file there is none. -/
theorem not_forgiven_dated :
    Broken bare.reader "a: 2024-02-30\n" ∧
      (gather (bare.put "home/config.yaml"
        (Entry.file "a: 2024-02-30\n")) []).2 =
        Except.error
          (Obstacle.other "ValueError" "day is out of range for month") ∧
      ∃ configuration,
        (gather (bare.put "home/config.yaml" Entry.folder) []).2 =
          Except.ok configuration := by
  have loads : bare.reader.load "a: 2024-02-30\n" =
      Except.error (Yaml.Problem.unusable "ValueError"
        "day is out of range for month") := by
    cbv
  have stands : Surroundings.entry?
      (bare.put "home/config.yaml" (Entry.file "a: 2024-02-30\n"))
        "home/config.yaml" = some (Entry.file "a: 2024-02-30\n") := rfl
  have path : (bare.put "home/config.yaml"
      (Entry.file "a: 2024-02-30\n")).globalFile = "home/config.yaml" := rfl
  have reads : (bare.put "home/config.yaml"
      (Entry.file "a: 2024-02-30\n")).reader = bare.reader := rfl
  refine ⟨?_, ?_, _, rfl⟩
  · intro value made
    rw [loads] at made
    cases made
  · rw [snd_gather, path, stands, reads, contribution, ofFile, loads]
    rfl

end Configuration

end UtilityCss

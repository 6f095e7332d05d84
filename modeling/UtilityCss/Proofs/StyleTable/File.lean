import UtilityCss.StyleTable.File

/-!
# What keeps a file from being a style table

A table is loaded, or somebody is told why there is none, unless it ends as
nobody foresaw: at something that is no file or cannot be opened, at a text
outside the language of tables, at a value that cannot be made for another reason
than its own text, or at keys that are no texts.  This is so with every reader of
that language.
-/

namespace UtilityCss.StyleTable

/-- What nobody foresaw about what stands at a path, under the name of the
error. -/
inductive Unforeseen (reader : Yaml.Reader) : Entry → String → Prop
  | folder : Unforeseen reader Entry.folder "IsADirectoryError"
  | locked : Unforeseen reader Entry.locked "PermissionError"
  | malformed {text reason : String}
      (stops : reader.load text =
        Except.error (Yaml.Problem.malformed reason)) :
      Unforeseen reader (Entry.file text) "YAMLError"
  | unusable {text name message : String}
      (stops : reader.load text =
        Except.error (Yaml.Problem.unusable name message))
      (other : name ≠ "ValueError") :
      Unforeseen reader (Entry.file text) name
  | keyword {text : String} {value : Value} {entries : List (Atom × Value)}
      (loads : reader.load text = Except.ok value)
      (found : value.entries? = some entries)
      (styles : (⟨entries⟩ : OrderedMap Atom Value).contains
        (Atom.text "styles") = true)
      (keyword : ∃ entry ∈ entries, entry.1.isText = false) :
      Unforeseen reader (Entry.file text) "TypeError"

/-- What nobody foresaw about a path; one that is too long cannot be looked
at. -/
inductive UnforeseenAt (surroundings : Surroundings) (path : String) :
    String → Prop
  | overlong (long : surroundings.isOverlong path = true) :
      UnforeseenAt surroundings path "OSError"
  | standing {entry : Entry} {name : String}
      (short : surroundings.isOverlong path = false)
      (stands : surroundings.entry? path = some entry)
      (unforeseen : Unforeseen surroundings.reader entry name) :
      UnforeseenAt surroundings path name

/-- Loading ends at an obstacle that nobody is told of, under its name. -/
def EndsUntold (loaded : Except Obstacle StyleTable) (name : String) : Prop :=
  ∃ obstacle, loaded = Except.error obstacle ∧ obstacle.report? = none ∧
    obstacle.name = name

theorem endsUntold_error_iff {obstacle : Obstacle} {name : String} :
    EndsUntold (Except.error obstacle) name ↔
      obstacle.report? = none ∧ obstacle.name = name := by
  constructor
  · rintro ⟨_, ⟨⟩, untold⟩
    exact untold
  · intro untold
    exact ⟨obstacle, rfl, untold⟩

theorem endsUntold_other_iff {name message found : String} :
    EndsUntold (Except.error (Obstacle.other name message)) found ↔
      name ≠ "ValueError" ∧ name = found := by
  rw [endsUntold_error_iff, Obstacle.report?.eq_def, Obstacle.name]
  refine and_congr_left fun _ => ?_
  by_cases value : name = "ValueError"
  · subst value
    simp
  · simp only [ne_eq, value, not_false_eq_true, iff_true]
    split <;> simp_all

/-- An obstacle of which nothing is said ends loading under its name. -/
theorem endsUntold_iff_name {obstacle : Obstacle} {name : String}
    (untold : obstacle.report? = none) :
    EndsUntold (Except.error obstacle) name ↔ obstacle.name = name := by
  rw [endsUntold_error_iff, untold, eq_self, true_and]

theorem not_endsUntold_of_report? {obstacle : Obstacle} {message name : String}
    (told : obstacle.report? = some message) :
    ¬ EndsUntold (Except.error obstacle) name := by
  rw [endsUntold_error_iff, told]
  rintro ⟨⟨⟩, _⟩

theorem not_endsUntold_ok {table : StyleTable} {name : String} :
    ¬ EndsUntold (Except.ok table) name := by
  rintro ⟨_, ⟨⟩, _⟩

/-- A table is loaded or somebody is told why not, unless loading ends untold. -/
theorem loaded_or_told {loaded : Except Obstacle StyleTable}
    (foreseen : ∀ name, ¬ EndsUntold loaded name) :
    (∃ table, loaded = Except.ok table) ∨
      ∃ obstacle message, loaded = Except.error obstacle ∧
        obstacle.report? = some message := by
  cases loaded with
  | ok table => exact Or.inl ⟨table, rfl⟩
  | error obstacle =>
      cases told : obstacle.report? with
      | some message => exact Or.inr ⟨obstacle, message, rfl, told⟩
      | none => exact absurd ⟨obstacle, rfl, told, rfl⟩ (foreseen obstacle.name)

/-- Of the values, only maps with styles and with keys that are no texts end
untold. -/
theorem endsUntold_ofValue_iff {path name : String} {value : Value} :
    EndsUntold (ofValue path value) name ↔
      (∃ entries, value.entries? = some entries ∧
        (⟨entries⟩ : OrderedMap Atom Value).contains (Atom.text "styles") =
          true ∧
        ∃ entry ∈ entries, entry.1.isText = false) ∧
      "TypeError" = name := by
  rw [ofValue]
  cases found : value.entries? with
  | none =>
      refine iff_of_false (not_endsUntold_of_report? rfl) ?_
      rintro ⟨⟨_, ⟨⟩, _⟩, _⟩
  | some entries =>
      simp only [Option.some.injEq, exists_eq_left']
      by_cases styles : (⟨entries⟩ : OrderedMap Atom Value).contains
          (Atom.text "styles") = true
      · rw [if_neg (by simp [styles])]
        by_cases keyword : ∃ entry ∈ entries, entry.1.isText = false
        · have mixed : ¬ (entries.all fun entry => entry.1.isText) = true := by
            simpa using keyword
          rw [if_neg mixed, endsUntold_other_iff]
          refine and_congr_left fun _ => ?_
          exact iff_of_true (by decide) ⟨styles, keyword⟩
        · have texts : (entries.all fun entry => entry.1.isText) = true := by
            simpa using keyword
          refine iff_of_false ?_ fun both => keyword both.1.2
          rw [if_pos texts]
          split
          · exact not_endsUntold_ok
          · exact not_endsUntold_of_report? rfl
      · rw [if_pos (by simpa using styles)]
        refine iff_of_false (not_endsUntold_of_report? rfl) ?_
        rintro ⟨⟨given, _⟩, _⟩
        exact styles given

theorem endsUntold_ofText_iff {reader : Yaml.Reader}
    {path text name : String} :
    EndsUntold (ofText reader path text) name ↔
      Unforeseen reader (Entry.file text) name := by
  rw [ofText]
  cases result : reader.load text with
  | ok value =>
      simp only [endsUntold_ofValue_iff]
      constructor
      · rintro ⟨⟨entries, found, styles, keyword⟩, rfl⟩
        exact Unforeseen.keyword result found styles keyword
      · rintro (_ | _ | stops | ⟨stops, _⟩ | ⟨loads, found, styles, keyword⟩)
        · cases result.symm.trans stops
        · cases result.symm.trans stops
        · obtain rfl := Except.ok.inj (result.symm.trans loads)
          exact ⟨⟨_, found, styles, keyword⟩, rfl⟩
  | error problem =>
      cases problem with
      | malformed reason =>
          refine (endsUntold_iff_name rfl).trans ?_
          constructor
          · rintro rfl
            exact Unforeseen.malformed result
          · rintro (_ | _ | _ | ⟨stops, _⟩ | ⟨loads, _, _, _⟩)
            · rfl
            · cases result.symm.trans stops
            · cases result.symm.trans loads
      | unusable found message =>
          refine endsUntold_other_iff.trans ?_
          constructor
          · rintro ⟨other, rfl⟩
            exact Unforeseen.unusable result other
          · rintro (_ | _ | stops | ⟨stops, other⟩ | ⟨loads, _, _, _⟩)
            · cases result.symm.trans stops
            · cases result.symm.trans stops
              exact ⟨other, rfl⟩
            · cases result.symm.trans loads

/-- Loading ends untold exactly where nobody foresaw what stands at the path. -/
theorem endsUntold_load_iff {surroundings : Surroundings}
    {path name : String} :
    EndsUntold (load surroundings path) name ↔
      UnforeseenAt surroundings (Path.tidy path) name := by
  rw [load]
  cases long : surroundings.isOverlong (Path.tidy path) with
  | true =>
      rw [if_pos rfl, endsUntold_iff_name rfl]
      constructor
      · rintro rfl
        exact UnforeseenAt.overlong long
      · rintro (_ | ⟨short, _, _⟩)
        · rfl
        · cases long.symm.trans short
  | false =>
      rw [if_neg Bool.false_ne_true]
      -- of what stands at the path, loading and foresight say the same
      have onlyStanding :
          UnforeseenAt surroundings (Path.tidy path) name ↔
            ∃ entry, surroundings.entry? (Path.tidy path) = some entry ∧
              Unforeseen surroundings.reader entry name := by
        constructor
        · rintro (overlong | ⟨_, stands, unforeseen⟩)
          · cases long.symm.trans overlong
          · exact ⟨_, stands, unforeseen⟩
        · rintro ⟨entry, stands, unforeseen⟩
          exact UnforeseenAt.standing long stands unforeseen
      rw [onlyStanding]
      cases stands : surroundings.entry? (Path.tidy path) with
      | none =>
          refine iff_of_false (not_endsUntold_of_report? rfl) ?_
          rintro ⟨_, ⟨⟩, _⟩
      | some entry =>
          simp only [Option.some.injEq, exists_eq_left']
          cases entry with
          | file text => exact endsUntold_ofText_iff
          | folder =>
              rw [endsUntold_iff_name rfl]
              constructor
              · rintro rfl
                exact Unforeseen.folder
              · rintro ⟨⟩
                rfl
          | locked =>
              rw [endsUntold_iff_name rfl]
              constructor
              · rintro rfl
                exact Unforeseen.locked
              · rintro ⟨⟩
                rfl

end UtilityCss.StyleTable

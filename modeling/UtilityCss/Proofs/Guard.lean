import UtilityCss.Proofs.Conversion
import UtilityCss.Proofs.Pattern
import UtilityCss.Proofs.Pattern.Reading

/-!
# The guard and the classes that are resolved

The guard reads a text as it was given, but the resolver is handed its
sanitized form, from which all brackets are gone.  Of the three checks only the
second can change its mind about the sanitized form: pieces of a dangerous
pattern that brackets kept apart come together.  Blanks make no difference to
any dangerous pattern, so this happens exactly when the pattern occurs in the
text without brackets.
-/

namespace UtilityCss

namespace Guard

open Text ClassText Pattern

/-! ## Dangerous patterns and blanks -/

theorem ignoresWidths_handlerAttribute :
    IgnoresWidths handlerAttribute := by
  have word : ∀ c, isBlank c = true → isWord c = false :=
    fun _ => isWord_of_isBlank
  have sign : "=".toList.any isBlank = false := by decide
  have value : IgnoresWidths (seq (run isBlank) (literal "=")) :=
    ignoresWidths_blanks (ignoresWidths_literal sign)
      (needsWord_literal (by decide) sign)
  have event : IgnoresWidths (atLeastOne isWord) :=
    (ignoresWidths_one word).seq (ignoresWidths_run word)
  exact (ignoresWidths_literal (by decide)).seq (event.seq value)

theorem needsWord_handlerAttribute : NeedsWord handlerAttribute :=
  (needsWord_literal (by decide) (by decide)).seq _

/-- The six patterns are the attribute and five literals without blanks. -/
theorem dangerousPatterns_cases {entry : String × Pattern}
    (listed : entry ∈ dangerousPatterns) :
    entry = ("on\\w+\\s*=", handlerAttribute) ∨
      entry = ("javascript:", literal "javascript:") ∨
      ∃ tag ∈ ["<script", "<iframe", "<object", "<embed"],
        entry = (tag, literal tag) := by
  simp only [dangerousPatterns, List.mem_cons, List.not_mem_nil,
    or_false] at listed
  rcases listed with rfl | rfl | rfl | rfl | rfl | rfl
  · exact Or.inr (Or.inr ⟨_, by decide, rfl⟩)
  · exact Or.inr (Or.inl rfl)
  · exact Or.inl rfl
  · exact Or.inr (Or.inr ⟨_, by decide, rfl⟩)
  · exact Or.inr (Or.inr ⟨_, by decide, rfl⟩)
  · exact Or.inr (Or.inr ⟨_, by decide, rfl⟩)

theorem occursIn_literal_eq_of_words_eq {text : String}
    (filled : text.toList ≠ [])
    (solid : text.toList.any isBlank = false) {left right : List Char}
    (same : words left = words right) :
    (literal text).occursIn left = (literal text).occursIn right :=
  occursIn_eq_of_words_eq (needsWord_literal filled solid)
    (ignoresWidths_literal solid) same

theorem occursIn_eq_of_dangerous {entry : String × Pattern}
    (listed : entry ∈ dangerousPatterns) {left right : List Char}
    (same : words left = words right) :
    entry.2.occursIn left = entry.2.occursIn right := by
  rcases dangerousPatterns_cases listed with rfl | rfl | ⟨tag, isTag, rfl⟩
  · exact occursIn_eq_of_words_eq needsWord_handlerAttribute
      ignoresWidths_handlerAttribute same
  · exact occursIn_literal_eq_of_words_eq (by decide) (by decide) same
  · have shape :
        ∀ tag ∈ ["<script", "<iframe", "<object", "<embed"],
          tag.toList ≠ [] ∧ tag.toList.any isBlank = false := by
      decide
    obtain ⟨filled, solid⟩ := shape tag isTag
    exact occursIn_literal_eq_of_words_eq filled solid same

theorem dangerIn?_congr {left right : List Char}
    (agree : ∀ entry ∈ dangerousPatterns,
      entry.2.occursIn left = entry.2.occursIn right) :
    dangerIn? left = dangerIn? right := by
  rw [dangerIn?, dangerIn?, ← List.head?_filter, List.filter_congr agree,
    List.head?_filter]

/-- What is dangerous in a text can be told from its words. -/
theorem dangerIn?_eq_of_words_eq {left right : List Char}
    (same : words left = words right) : dangerIn? left = dangerIn? right :=
  dangerIn?_congr fun _ listed => occursIn_eq_of_dangerous listed same

theorem dangerIn?_sanitize (chars : List Char) :
    dangerIn? (sanitize chars) = dangerIn? (unbracketed chars) :=
  dangerIn?_eq_of_words_eq (words_sanitize chars)

/-! ## Dangerous patterns without brackets -/

theorem isSpecial_of_occursIn_tag {tag : String}
    (isTag : tag ∈ ["<script", "<iframe", "<object", "<embed"])
    {chars : List Char} (occurs : (literal tag).occursIn chars = true) :
    ∃ c ∈ chars, isSpecial c = true := by
  have opens : ∀ tag ∈ ["<script", "<iframe", "<object", "<embed"],
      tag.toList.head? = some '<' := by
    decide
  obtain ⟨c, member, folded⟩ :=
    exists_mem_of_occursIn_literal (opens tag isTag) occurs
  have opening : c = '<' := eq_of_foldLetter_eq (by decide) folded
  exact ⟨c, member, opening ▸ by decide⟩

/-- Where there are no brackets, no tag can open. -/
theorem dangerIn?_of_bracketless {chars : List Char} {name : String}
    (bracketless : ∀ c ∈ chars, isSpecial c = false)
    (found : dangerIn? chars = some name) :
    name = "javascript:" ∨ name = "on\\w+\\s*=" := by
  obtain ⟨entry, first, rfl⟩ := Option.map_eq_some_iff.mp found
  have occurs : entry.2.occursIn chars = true := by
    simpa only using List.find?_some first
  rcases dangerousPatterns_cases (List.mem_of_find?_eq_some first) with
    rfl | rfl | ⟨tag, isTag, rfl⟩
  · exact Or.inr rfl
  · exact Or.inl rfl
  · obtain ⟨c, member, special⟩ := isSpecial_of_occursIn_tag isTag occurs
    rw [bracketless c member] at special
    cases special

/-! ## The guard on what is resolved -/

theorem length_le_of_check {limit : Int} {chars : List Char}
    (passed : check limit chars = Except.ok ()) :
    (chars.length : Int) ≤ limit := by
  rw [check] at passed
  split at passed
  · cases passed
  · omega

theorem dangerIn?_of_check {limit : Int} {chars : List Char}
    (passed : check limit chars = Except.ok ()) : dangerIn? chars = none := by
  rw [check] at passed
  split at passed
  · cases passed
  · split at passed
    · cases passed
    · assumption

/-- The sanitized form of a text that is not too long can only be rejected for
a pattern that occurs in the text without brackets. -/
theorem check_sanitize {limit : Int} {chars : List Char}
    (short : (chars.length : Int) ≤ limit) :
    check limit (sanitize chars) =
      ((dangerIn? (unbracketed chars)).map Rejection.dangerous).elim
        (Except.ok ()) Except.error := by
  have shorter := length_sanitize_le chars
  rw [check, if_neg (by omega), dangerIn?_sanitize]
  cases dangerIn? (unbracketed chars) with
  | some pattern => rfl
  | none =>
      rw [specialCount_sanitize]
      rfl

theorem check_sanitize_eq_ok_iff {limit : Int} {chars : List Char}
    (short : (chars.length : Int) ≤ limit) :
    check limit (sanitize chars) = Except.ok () ↔
      dangerIn? (unbracketed chars) = none := by
  rw [check_sanitize short]
  cases dangerIn? (unbracketed chars) with
  | some pattern => simp
  | none => simp

/-- An accepted text is handed to the resolver in a form that the guard would
have accepted as well, unless deleting its brackets brings together the pieces
of a script address or of an event handler.  No tag can come about in this way,
no other check can fail, and without brackets nothing changes. -/
theorem check_classesOf_of_check (limit : Int) (text : String)
    (passed : check limit text.toList = Except.ok ()) :
    (check limit (classesOf text).toList = Except.ok () ↔
        dangerIn? (unbracketed text.toList) = none) ∧
      (∀ cause, check limit (classesOf text).toList = Except.error cause →
        cause = Rejection.dangerous "javascript:" ∨
          cause = Rejection.dangerous "on\\w+\\s*=") ∧
      (specialCount text.toList = 0 →
        check limit (classesOf text).toList = Except.ok ()) ∧
      ∀ (processor next : Processor) (job : Job) (phases : List Phase),
        processor.opening text = (Opening.unresolved job, phases, next) →
          (dangerIn? job.classes.toList = none ↔
            check limit (classesOf text).toList = Except.ok ()) := by
  have short := length_le_of_check passed
  have verdict := check_sanitize_eq_ok_iff short
  rw [classesOf, String.toList_ofList]
  refine ⟨verdict, ?_, ?_, ?_⟩
  · intro cause failed
    rw [check_sanitize short] at failed
    cases danger : dangerIn? (unbracketed text.toList) with
    | none =>
        rw [danger] at failed
        cases failed
    | some name =>
        rw [danger] at failed
        obtain rfl := Except.error.inj failed
        have bracketless : ∀ c ∈ unbracketed text.toList,
            isSpecial c = false :=
          fun c member => by simpa using (List.mem_filter.mp member).2
        exact (dangerIn?_of_bracketless bracketless danger).imp
          (congrArg Rejection.dangerous) (congrArg Rejection.dangerous)
  · intro clear
    rw [verdict, unbracketed_of_specialCount_eq_zero clear]
    exact dangerIn?_of_check passed
  · intro processor next job phases unresolved
    rw [Processor.job_of_opening unresolved, verdict, Job.ofText, classesOf,
      String.toList_ofList, dangerIn?_sanitize]

/-- Arbitrary values in brackets are usual, and harmless. -/
theorem check_classesOf_of_check_width :
    check 10000 "w-[10px] p-4".toList = Except.ok () ∧
      check 10000 (classesOf "w-[10px] p-4").toList = Except.ok () := by
  have passed : check 10000 "w-[10px] p-4".toList = Except.ok () := by
    rfl
  obtain ⟨verdict, _, _, _⟩ :=
    check_classesOf_of_check 10000 "w-[10px] p-4" passed
  exact ⟨passed, verdict.mpr (by decide +kernel)⟩

/-- A bracket inside a script address hides it from the guard, and sanitizing
the text takes the bracket away. -/
theorem check_hidden_address :
    check 10000 "java[script:".toList = Except.ok () ∧
      check 10000 (classesOf "java[script:").toList =
        Except.error (Rejection.dangerous "javascript:") ∧
      ((Processor.create Settings.usual).opening "java[script:").1 =
        Opening.unresolved ⟨"java[script:", "javascript:"⟩ ∧
      ¬ ∀ (limit : Int) (text : String),
        check limit text.toList = Except.ok () →
          check limit (classesOf text).toList = Except.ok () := by
  have passed : check 10000 "java[script:".toList = Except.ok () := by
    rfl
  have caught : check 10000 (classesOf "java[script:").toList =
      Except.error (Rejection.dangerous "javascript:") := by
    rfl
  refine ⟨passed, caught, by decide +kernel, fun always => ?_⟩
  rw [always 10000 "java[script:" passed] at caught
  cases caught

end Guard

end UtilityCss

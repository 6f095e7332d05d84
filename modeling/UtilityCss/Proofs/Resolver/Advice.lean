import UtilityCss.Proofs.Resolver.Static
import UtilityCss.Proofs.Warnings

/-!
# Advice on the classes of the core table

The shapes and the core table are two descriptions of what a class is.  They
agree on all classes of the table but one: a hidden overflow is resolved, but its
ending is not among the keywords.  So a text of core classes is suspected exactly
if it names that class, once for each time.
-/

namespace UtilityCss

namespace StyleTable

open Warnings

theorem isRecognized_of_core :
    ∀ name ∈ core.styles.keys,
      name ≠ "overflow-hidden" → Shape.isRecognized name = true := by
  decide +kernel

theorem not_isRecognized_overflow :
    Shape.isRecognized "overflow-hidden" = false := by
  decide +kernel

theorem unrecognized_of_core {tokens : List String}
    (known : ∀ name ∈ tokens, name ∈ core.styles.keys) :
    unrecognized tokens =
      List.replicate (tokens.count "overflow-hidden") "overflow-hidden" := by
  have agree : ∀ name ∈ tokens,
      (!Shape.isRecognized name) = (name == "overflow-hidden") := by
    intro name member
    by_cases hidden : name = "overflow-hidden"
    · simp [hidden, not_isRecognized_overflow]
    · have recognized := isRecognized_of_core name (known name member) hidden
      simp [recognized, hidden]
  rw [unrecognized, List.filter_congr agree, List.filter_beq]

end StyleTable

namespace TableResolver

open ClassText Warnings

/-- Whatever has happened at a desk that is served from the core table, the
warnings on a text of core classes suspect its hidden overflows and nothing
else. -/
theorem suspects_hidden_overflow_only
    (settings : Settings) (steps : List ServiceStep) {text : String}
    (passed :
      Guard.check settings.maxInputLength text.toList = Except.ok ())
    (known : ∀ name ∈ tokens (classesOf text),
      name ∈ StyleTable.core.styles.keys) :
    ∃ result,
      ((Service.create settings (create StyleTable.core)).run interface
              steps).result? interface text =
          some result ∧
        result.failure = none ∧
        AdvisesOn
          (List.replicate
            ((tokens (classesOf text)).count "overflow-hidden")
            "overflow-hidden")
          (result.warnings.getD []) ∧
        ((∃ advice ∈ result.warnings.getD [], TellsOfShapes advice) ↔
          "overflow-hidden" ∈ tokens (classesOf text)) := by
  have keeps :=
    (keeps_create settings (create StyleTable.core)).run steps
  have suspicious := StyleTable.unrecognized_of_core known
  have advises :=
    advisesOn_alone passed (create StyleTable.core).table.stylesOf
  refine ⟨_, keeps.result?_eq text, ?_, ?_, ?_⟩
  · cases blank : isBlankText text.toList with
    | true => rw [Conversion.alone_of_blank _ _ blank]; rfl
    | false => rw [Conversion.alone_of_accepted _ ⟨blank, passed⟩]; rfl
  · apply advises.congr
    rw [← suspicious, unrecognized_unrecognized]
  · rw [advises.tells_iff, suspicious, ne_eq, List.replicate_eq_nil_iff,
      List.count_eq_zero, not_not]

/-- Brackets, repetition and an overflow that is not hidden raise no suspicion,
whatever was converted before. -/
theorem suspects_hidden_overflow_only_scrolling :
    Guard.check Settings.usual.maxInputLength
          "flex [overflow-auto] flex".toList =
        Except.ok () ∧
      (∀ name ∈ tokens (classesOf "flex [overflow-auto] flex"),
        name ∈ StyleTable.core.styles.keys) ∧
      ∃ result,
        ((Service.create Settings.usual (create StyleTable.core)).run
                interface (Service.conversion "p-4" 0)).result? interface
              "flex [overflow-auto] flex" =
            some result ∧
          ¬ ∃ advice ∈ result.warnings.getD [], TellsOfShapes advice := by
  have passed :
      Guard.check Settings.usual.maxInputLength
          "flex [overflow-auto] flex".toList =
        Except.ok () := by
    rfl
  have named :
      tokens (classesOf "flex [overflow-auto] flex") =
        ["flex", "overflow-auto", "flex"] := by
    decide +kernel
  have known : ∀ name ∈ tokens (classesOf "flex [overflow-auto] flex"),
      name ∈ StyleTable.core.styles.keys := by
    rw [named]
    decide +kernel
  obtain ⟨result, given, _, _, tells⟩ :=
    suspects_hidden_overflow_only Settings.usual
      (Service.conversion "p-4" 0) passed known
  refine ⟨passed, known, result, given, ?_⟩
  rw [tells, named]
  decide

/-- The class is in the table and its styles are found, but the warnings list
it. -/
theorem suspects_hidden_overflow :
    Guard.check Settings.usual.maxInputLength "overflow-hidden".toList =
        Except.ok () ∧
      (∀ name ∈ tokens (classesOf "overflow-hidden"),
        name ∈ StyleTable.core.styles.keys) ∧
      (Conversion.alone Settings.usual.maxInputLength
            (create StyleTable.core).table.stylesOf "overflow-hidden") =
        ⟨".element \x7b\n  overflow: hidden;\n\x7d", none,
          some ["Potentially invalid classes: overflow-hidden"]⟩ ∧
      ¬ ∀ (settings : Settings) (text : String) (result : Conversion),
        Guard.check settings.maxInputLength text.toList = Except.ok () →
          (∀ name ∈ tokens (classesOf text),
            name ∈ StyleTable.core.styles.keys) →
          (Service.create settings (create StyleTable.core)).result?
                interface text =
              some result →
            ∀ advice ∈ result.warnings.getD [], ¬ TellsOfShapes advice := by
  have passed :
      Guard.check Settings.usual.maxInputLength "overflow-hidden".toList =
        Except.ok () := by
    rfl
  have known : ∀ name ∈ tokens (classesOf "overflow-hidden"),
      name ∈ StyleTable.core.styles.keys := by
    decide +kernel
  have given :
      (Conversion.alone Settings.usual.maxInputLength
            (create StyleTable.core).table.stylesOf "overflow-hidden") =
        ⟨".element \x7b\n  overflow: hidden;\n\x7d", none,
          some ["Potentially invalid classes: overflow-hidden"]⟩ := by
    decide +kernel
  refine ⟨passed, known, given, fun always => ?_⟩
  have keeps := keeps_create Settings.usual (create StyleTable.core)
  have result := keeps.result?_eq "overflow-hidden"
  rw [given] at result
  apply always Settings.usual "overflow-hidden" _ passed known result
    "Potentially invalid classes: overflow-hidden"
  · decide
  · exact TellsOfShapes.listed ["overflow-hidden"]

end TableResolver

end UtilityCss

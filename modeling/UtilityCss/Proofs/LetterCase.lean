import UtilityCss.Proofs.Guard
import UtilityCss.Proofs.Pattern.LetterCase
import UtilityCss.Shape

/-!
# The checks ignore the case of letters

The guard and the check of shapes are made of patterns, a count of brackets and
a look-up of the text in lower case.  The look-up follows other rules than the
patterns where letters of other blocks are concerned, but none of the three
tells a basic capital from its small letter.
-/

namespace UtilityCss

open Text

/-! ## The guard -/

namespace Guard

theorem ignoresCase_of_dangerous :
    ∀ entry ∈ dangerousPatterns, entry.2.ignoresCase = true := by
  decide +kernel

section Recasing

variable {left right : List Char} (same : Recased left right)

include same

theorem dangerIn?_recased : dangerIn? left = dangerIn? right := by
  apply dangerIn?_congr
  intro entry listed
  have ignores := ignoresCase_of_dangerous entry listed
  exact Pattern.caseless_occursIn ignores left right same

theorem specialCount_recased : specialCount left = specialCount right := by
  have ignores : IgnoresCase isSpecial :=
    ignoresCase_of_sameOnCapitals (by decide)
  have marks := ignores.map_eq same
  have counted : ∀ chars,
      specialCount chars = (chars.map isSpecial).count true := by
    intro chars
    rw [specialCount, List.count, List.countP_map]
    simp [Function.comp_def]
  rw [counted, counted, marks]

theorem check_recased (limit : Int) :
    check limit left = check limit right := by
  have length : left.length = right.length := List.Forall₂.length_eq same
  rw [check, check, length, dangerIn?_recased same,
    specialCount_recased same]

end Recasing

end Guard

/-! ## Shapes -/

namespace Shape

theorem ignoresCase_of_shape :
    ∀ pattern ∈ patterns, pattern.ignoresCase = true := by
  simp only [patterns, List.forall_mem_cons, scale, size, variant, remnant,
    keyworded, Pattern.ignoresCase, Pattern.ignoresCase_literals,
    Pattern.ignoresCase_literal]
  decide

/-- A capital and its small letter have one lower case, though the two maps for
lower case differ on other letters. -/
theorem lower_recased {left right : List Char} (same : Recased left right) :
    lower left = lower right := by
  have ignores : IgnoresCase lowerChar :=
    ignoresCase_of_sameOnCapitals (by decide)
  rw [lower, lower, List.flatMap_def, List.flatMap_def,
    ignores.map_eq same]

theorem isRecognized_recased {left right : String}
    (same : Recased left.toList right.toList) :
    isRecognized left = isRecognized right := by
  have shapes :
      (patterns.any fun pattern => pattern.matchesStart left.toList) =
        patterns.any fun pattern => pattern.matchesStart right.toList := by
    rw [Bool.eq_iff_iff, List.any_eq_true, List.any_eq_true]
    apply exists_congr
    intro pattern
    apply and_congr_right
    intro listed
    have ignores := ignoresCase_of_shape pattern listed
    rw [Pattern.caseless_matchesStart ignores _ _ same]
  rw [isRecognized, isRecognized, lower_recased same, shapes]

end Shape

/-- Texts that differ in the case of basic letters only are accepted together or
rejected for the same cause, and have the shape of a class together. -/
theorem checks_ignore_case {left right : String}
    (same : Recased left.toList right.toList) :
    (∀ limit, Guard.check limit left.toList = Guard.check limit right.toList) ∧
      Shape.isRecognized left = Shape.isRecognized right :=
  ⟨Guard.check_recased same, Shape.isRecognized_recased same⟩

/-- An event handler behind a variant: dangerous, and of a known shape. -/
theorem checks_ignore_case_handler :
    Recased "Hover:onClick =x".toList "hOVER:ONcLICK =X".toList ∧
      Guard.check 100 "Hover:onClick =x".toList =
          Except.error (Rejection.dangerous "on\\w+\\s*=") ∧
        Shape.isRecognized "Hover:onClick =x" = true := by
  have same :
      Recased "Hover:onClick =x".toList "hOVER:ONcLICK =X".toList := by
    decide
  obtain ⟨checked, shaped⟩ := checks_ignore_case same
  rw [checked, shaped]
  exact ⟨same, by decide +kernel, by decide +kernel⟩

end UtilityCss

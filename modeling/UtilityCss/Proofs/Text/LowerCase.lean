import UtilityCss.Text.Letter
import UtilityCss.Text.LowerCase

/-!
# Lower case and basic letters

`lower` knows only those characters whose small letters can be basic letters, and
`lowerCase` knows all.  The small letter of any other capital lies beyond the
basic block, so the two agree on which texts have a given basic text as their
lower case.
-/

namespace UtilityCss.Text

/-- A character of the basic Latin block. -/
def IsBasic (c : Char) : Prop :=
  0 < c.toNat ∧ c.toNat < 0x80

instance (c : Char) : Decidable (IsBasic c) :=
  inferInstanceAs (Decidable (_ ∧ _))

/-- Of all the runs of capitals only the sign for kelvin leads into the basic
block. -/
theorem le_of_mem_capitalRuns :
    ∀ run ∈ capitalRuns, run = (0x212A, 0x212A, 1, -8383) ∨
      (0x80 : Int) ≤ run.1 + run.2.2.2 := by
  decide +kernel

theorem not_isBasic_ofNat {code : Nat} (beyond : 0x80 ≤ code) :
    ¬ IsBasic (Char.ofNat code) := by
  rintro ⟨positive, basic⟩
  by_cases valid : code.isValidChar
  · have same : (Char.ofNat code).toNat = code := by
      rw [Char.ofNat, dif_pos valid]
      rfl
    omega
  · rw [Char.ofNat, dif_neg valid] at positive
    exact absurd positive (by decide)

theorem not_isBasic_smallLetter {c : Char} (beyond : 0x80 ≤ c.toNat)
    (other : c ≠ '\u212A') : ¬ IsBasic (smallLetter c) := by
  rw [smallLetter, if_neg (by omega)]
  split
  · rename_i first last stride distance found
    have member := List.mem_of_find?_eq_some found
    have within := List.find?_some found
    simp only [Bool.and_eq_true, decide_eq_true_eq] at within
    rcases le_of_mem_capitalRuns _ member with kelvin | far
    · simp only [Prod.mk.injEq] at kelvin
      have code : c.toNat = 0x212A := by omega
      have same : c = '\u212A' := by
        rw [← Char.ofNat_toNat c, code]
      exact absurd same other
    · simp only at far
      apply not_isBasic_ofNat
      omega
  · intro basic
    have below := basic.2
    omega

theorem toLower_of_not_isBasic {c : Char} (beyond : 0x80 ≤ c.toNat) :
    c.toLower = c := by
  delta Char.toLower
  split
  · rename_i capital
    have last : c.toNat ≤ 90 := capital.2
    omega
  · rfl

/-- The two maps agree on which characters become a basic letter. -/
theorem smallLetter_eq_iff {c small : Char} (undotted : c ≠ '\u0130')
    (basic : IsBasic small) :
    smallLetter c = small ↔ lowerChar c = [small] := by
  by_cases within : c.toNat < 0x80
  · have plain : c ≠ '\u212A' := by
      rintro rfl
      exact absurd within (by decide)
    rw [smallLetter, if_pos within, lowerChar, if_neg plain, if_neg undotted,
      List.singleton_inj]
  · have beyond : 0x80 ≤ c.toNat := Nat.le_of_not_lt within
    by_cases kelvin : c = '\u212A'
    · have here : smallLetter c = 'k' := by
        rw [kelvin]
        decide +kernel
      rw [here, lowerChar, if_pos kelvin, List.singleton_inj]
    · rw [lowerChar, if_neg kelvin, if_neg undotted,
        toLower_of_not_isBasic beyond, List.singleton_inj]
      constructor
      · rintro rfl
        exact absurd basic (not_isBasic_smallLetter beyond kelvin)
      · rintro rfl
        exact absurd basic.2 within

theorem lowerCaseAux_eq_iff {word : List Char}
    (basic : ∀ c ∈ word, IsBasic c) (before chars : List Char) :
    lowerCaseAux before chars = word ↔ lower chars = word := by
  induction chars generalizing before word with
  | nil => rfl
  | cons c rest inductionHypothesis =>
      have spread : lower (c :: rest) = lowerChar c ++ lower rest := rfl
      rw [lowerCaseAux, spread]
      by_cases sigma : c = '\u03A3'
      · -- no small sigma is basic, and neither is the capital
        have small : ∀ letter others, ¬ IsBasic letter →
            letter :: others ≠ word := by
          rintro letter others far rfl
          exact far (basic letter List.mem_cons_self)
        subst sigma
        rw [if_pos rfl]
        have left := small
          (if meetsCased before && !meetsCased rest then '\u03C2'
            else '\u03C3')
          (lowerCaseAux ('\u03A3' :: before) rest)
          (by split <;> decide)
        have right := small '\u03A3' (lower rest) (by decide)
        exact iff_of_false left right
      · rw [if_neg sigma]
        by_cases dotted : c = '\u0130'
        · have dot : ∀ others : List Char,
              'i' :: '\u0307' :: others ≠ word := by
            rintro others rfl
            have far := basic '\u0307' (by simp)
            exact absurd far (by decide)
          subst dotted
          rw [if_pos rfl]
          exact iff_of_false (dot _) (dot _)
        · rw [if_neg dotted]
          obtain ⟨single, shape⟩ : ∃ single, lowerChar c = [single] := by
            rw [lowerChar, if_neg dotted]
            split
            · exact ⟨_, rfl⟩
            · exact ⟨_, rfl⟩
          cases word with
          | nil =>
              rw [shape]
              exact iff_of_false (List.cons_ne_nil _ _) (List.cons_ne_nil _ _)
          | cons head tail =>
              obtain ⟨first, later⟩ := List.forall_mem_cons.mp basic
              have heads := smallLetter_eq_iff dotted first
              rw [shape, List.singleton_inj] at heads
              rw [shape, List.singleton_append, List.cons.injEq,
                List.cons.injEq, heads, inductionHypothesis later]

/-- A text has a basic text as its lower case in both ways or in neither. -/
theorem lowerCase_eq_iff {word : List Char} (basic : ∀ c ∈ word, IsBasic c)
    (chars : List Char) : lowerCase chars = word ↔ lower chars = word :=
  lowerCaseAux_eq_iff basic [] chars

end UtilityCss.Text

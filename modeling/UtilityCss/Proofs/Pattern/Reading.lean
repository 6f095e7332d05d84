import Mathlib.Data.List.Basic
import UtilityCss.Pattern

/-!
# What a pattern reads

The test `accepts` tries the ways of reading a pattern one after another.  Here
the ways themselves are described: which texts a pattern can be read from, given
what follows them.  A pattern is accepted exactly when one of its ways of reading
leaves a rest that passes, and it occurs in a text exactly when some part of the
text can be read as the pattern.
-/

namespace UtilityCss

namespace Text

/-- The characters are those of the word, taken for their lower-case letters. -/
def Spells (chars : List Char) (word : String) : Prop :=
  chars.map foldLetter = word.toList

/-- A character that is no small letter stands for itself only. -/
theorem eq_of_foldLetter_eq {c expected : Char}
    (other : ¬ ('a' ≤ expected ∧ expected ≤ 'z'))
    (folded : foldLetter c = expected) : c = expected := by
  subst folded
  rw [foldLetter] at other ⊢
  split at other
  · exact absurd (by decide) other
  rename_i notLong
  split at other
  · exact absurd (by decide) other
  rename_i notDotted
  split at other
  · exact absurd (by decide) other
  rename_i notKelvin
  rw [if_neg notLong, if_neg notDotted, if_neg notKelvin]
  delta Char.toLower at other ⊢
  split at other
  · rename_i capital
    have lowest : 65 ≤ c.val.toNat := capital.1
    have highest : c.val.toNat ≤ 90 := capital.2
    have distance : (32 : UInt32).toNat = 32 := rfl
    have code : (c.val + 32).toNat = c.val.toNat + 32 := by
      rw [UInt32.toNat_add, distance]
      exact Nat.mod_eq_of_lt (by omega)
    refine absurd ⟨?_, ?_⟩ other
    · show 97 ≤ (c.val + 32).toNat
      omega
    · show (c.val + 32).toNat ≤ 122
      omega
  · rename_i small
    rw [dif_neg small]

/-- A word of one sign is spelled by the sign only. -/
theorem spells_sign {chars : List Char} {word : String} {sign : Char}
    (single : word.toList = [sign]) (other : ¬ ('a' ≤ sign ∧ sign ≤ 'z'))
    (folded : foldLetter sign = sign) :
    Spells chars word ↔ chars = [sign] := by
  rw [Spells, single, List.map_eq_singleton_iff]
  constructor
  · rintro ⟨c, rfl, same⟩
    rw [eq_of_foldLetter_eq other same]
  · rintro rfl
    exact ⟨sign, rfl, folded⟩

end Text

namespace Pattern

open Text

/-- The pattern can be read from the text `front` when `back` follows it. -/
def Reads : Pattern → (front back : List Char) → Prop
  | one test, front, _ => ∃ c, test c = true ∧ front = [c]
  | run test, front, _ => ∀ c ∈ front, test c = true
  | empty, front, _ => front = []
  | seq first second, front, back =>
      ∃ left right, front = left ++ right ∧
        first.Reads left (right ++ back) ∧ second.Reads right back
  | alt left right, front, back =>
      left.Reads front back ∨ right.Reads front back
  | ending, front, back => front = [] ∧ (back = [] ∨ back = ['\n'])

/-! ## Reading and accepting -/

theorem acceptsRun_iff (test : Char → Bool) (rest : List Char → Bool)
    (chars : List Char) :
    acceptsRun test rest chars = true ↔
      ∃ front back, chars = front ++ back ∧
        (∀ c ∈ front, test c = true) ∧ rest back = true := by
  induction chars with
  | nil =>
      rw [acceptsRun]
      constructor
      · intro passes
        exact ⟨[], [], rfl, List.forall_mem_nil _, passes⟩
      · rintro ⟨front, back, parts, _, passes⟩
        obtain ⟨rfl, rfl⟩ := List.append_eq_nil_iff.mp parts.symm
        exact passes
  | cons head tail inductionHypothesis =>
      rw [acceptsRun, Bool.or_eq_true, Bool.and_eq_true, inductionHypothesis]
      constructor
      · rintro (passes | ⟨first, front, back, rfl, all, passes⟩)
        · exact ⟨[], head :: tail, rfl, List.forall_mem_nil _, passes⟩
        · exact ⟨head :: front, back, rfl,
            List.forall_mem_cons.mpr ⟨first, all⟩, passes⟩
      · rintro ⟨front, back, parts, all, passes⟩
        cases front with
        | nil =>
            obtain rfl : head :: tail = back := parts
            exact Or.inl passes
        | cons first others =>
            obtain ⟨rfl, rfl⟩ := List.cons.inj parts
            obtain ⟨here, later⟩ := List.forall_mem_cons.mp all
            exact Or.inr ⟨here, others, back, rfl, later, passes⟩

/-- Accepting tries exactly the ways of reading. -/
theorem accepts_iff (pattern : Pattern) (rest : List Char → Bool)
    (chars : List Char) :
    pattern.accepts rest chars = true ↔
      ∃ front back, chars = front ++ back ∧ pattern.Reads front back ∧
        rest back = true := by
  induction pattern generalizing rest chars with
  | one test =>
      cases chars with
      | nil =>
          constructor
          · intro passes
            cases passes
          · rintro ⟨front, back, parts, ⟨c, _, rfl⟩, _⟩
            cases parts
      | cons head tail =>
          rw [accepts, Bool.and_eq_true]
          constructor
          · rintro ⟨first, passes⟩
            exact ⟨[head], tail, rfl, ⟨head, first, rfl⟩, passes⟩
          · rintro ⟨front, back, parts, ⟨c, first, rfl⟩, passes⟩
            obtain ⟨rfl, rfl⟩ := List.cons.inj parts
            exact ⟨first, passes⟩
  | run test => exact acceptsRun_iff test rest chars
  | empty =>
      rw [accepts]
      constructor
      · intro passes
        exact ⟨[], chars, rfl, rfl, passes⟩
      · rintro ⟨front, back, rfl, rfl, passes⟩
        exact passes
  | seq first second firstHypothesis secondHypothesis =>
      rw [accepts, firstHypothesis]
      constructor
      · rintro ⟨left, others, rfl, readsFirst, passes⟩
        obtain ⟨right, back, rfl, readsSecond, passes⟩ :=
          (secondHypothesis _ _).mp passes
        exact ⟨left ++ right, back, (List.append_assoc _ _ _).symm,
          ⟨left, right, rfl, readsFirst, readsSecond⟩, passes⟩
      · rintro ⟨front, back, rfl, ⟨left, right, rfl, readsFirst, readsSecond⟩,
          passes⟩
        have later := (secondHypothesis rest (right ++ back)).mpr
          ⟨right, back, rfl, readsSecond, passes⟩
        exact ⟨left, right ++ back, List.append_assoc _ _ _, readsFirst, later⟩
  | alt left right leftHypothesis rightHypothesis =>
      rw [accepts, Bool.or_eq_true, leftHypothesis, rightHypothesis]
      constructor
      · rintro (⟨front, back, parts, reads, passes⟩ |
          ⟨front, back, parts, reads, passes⟩)
        · exact ⟨front, back, parts, Or.inl reads, passes⟩
        · exact ⟨front, back, parts, Or.inr reads, passes⟩
      · rintro ⟨front, back, parts, reads | reads, passes⟩
        · exact Or.inl ⟨front, back, parts, reads, passes⟩
        · exact Or.inr ⟨front, back, parts, reads, passes⟩
  | ending =>
      rw [accepts, Bool.and_eq_true, Bool.or_eq_true, beq_iff_eq, beq_iff_eq]
      constructor
      · rintro ⟨ends, passes⟩
        exact ⟨[], chars, rfl, ⟨rfl, ends⟩, passes⟩
      · rintro ⟨front, back, rfl, ⟨rfl, ends⟩, passes⟩
        exact ⟨ends, passes⟩

theorem matchesStart_iff (pattern : Pattern) (chars : List Char) :
    pattern.matchesStart chars = true ↔
      ∃ front back, chars = front ++ back ∧ pattern.Reads front back := by
  rw [matchesStart, accepts_iff]
  simp only [and_true]

theorem occursIn_iff (pattern : Pattern) (chars : List Char) :
    pattern.occursIn chars = true ↔
      ∃ before found after, chars = before ++ (found ++ after) ∧
        pattern.Reads found after := by
  induction chars with
  | nil =>
      rw [occursIn, matchesStart_iff]
      constructor
      · rintro ⟨found, after, parts, reads⟩
        exact ⟨[], found, after, parts, reads⟩
      · rintro ⟨before, found, after, parts, reads⟩
        obtain ⟨rfl, rest⟩ := List.append_eq_nil_iff.mp parts.symm
        exact ⟨found, after, rest.symm, reads⟩
  | cons head tail inductionHypothesis =>
      rw [occursIn, Bool.or_eq_true, matchesStart_iff, inductionHypothesis]
      constructor
      · rintro (⟨found, after, parts, reads⟩ |
          ⟨before, found, after, rfl, reads⟩)
        · exact ⟨[], found, after, parts, reads⟩
        · exact ⟨head :: before, found, after, rfl, reads⟩
      · rintro ⟨before, found, after, parts, reads⟩
        cases before with
        | nil => exact Or.inl ⟨found, after, parts, reads⟩
        | cons first others =>
            obtain ⟨rfl, rfl⟩ := List.cons.inj parts
            exact Or.inr ⟨others, found, after, rfl, reads⟩

/-! ## Built patterns -/

section Building

variable {front back : List Char}

theorem reads_literal {word : String} :
    (literal word).Reads front back ↔ Spells front word := by
  rw [literal, Spells]
  generalize word.toList = letters
  induction letters generalizing front with
  | nil =>
      show front = [] ↔ _
      rw [List.map_eq_nil_iff]
  | cons letter letters inductionHypothesis =>
      rw [List.foldr_cons, List.map_eq_cons_iff]
      constructor
      · rintro ⟨_, others, rfl, ⟨c, same, rfl⟩, reads⟩
        exact ⟨c, others, rfl, beq_iff_eq.mp same,
          inductionHypothesis.mp reads⟩
      · rintro ⟨c, others, rfl, same, spelled⟩
        exact ⟨[c], others, rfl, ⟨c, beq_iff_eq.mpr same, rfl⟩,
          inductionHypothesis.mpr spelled⟩

theorem reads_literals {listed : List String} :
    (literals listed).Reads front back ↔
      ∃ word ∈ listed, Spells front word := by
  induction listed with
  | nil => simp [literals, Reads]
  | cons word others inductionHypothesis =>
      cases others with
      | nil => simp [literals, reads_literal]
      | cons second others =>
          have either :
              (literals (word :: second :: others)).Reads front back ↔
                (literal word).Reads front back ∨
                  (literals (second :: others)).Reads front back :=
            Iff.rfl
          rw [either, reads_literal, inductionHypothesis]
          exact (List.exists_mem_cons_iff _ word (second :: others)).symm

theorem reads_optional {pattern : Pattern} :
    (optional pattern).Reads front back ↔
      pattern.Reads front back ∨ front = [] :=
  Iff.rfl

theorem reads_atLeastOne {test : Char → Bool} :
    (atLeastOne test).Reads front back ↔
      front ≠ [] ∧ ∀ c ∈ front, test c = true := by
  constructor
  · rintro ⟨_, others, rfl, ⟨c, first, rfl⟩, all⟩
    exact ⟨List.cons_ne_nil c others,
      List.forall_mem_cons.mpr ⟨first, all⟩⟩
  · rintro ⟨filled, all⟩
    obtain ⟨c, others, rfl⟩ := List.exists_cons_of_ne_nil filled
    obtain ⟨first, later⟩ := List.forall_mem_cons.mp all
    exact ⟨[c], others, rfl, ⟨c, first, rfl⟩, later⟩

theorem reads_upTo {test : Char → Bool} {most : Nat} :
    (upTo test most).Reads front back ↔
      front.length ≤ most ∧ ∀ c ∈ front, test c = true := by
  induction most generalizing front with
  | zero =>
      rw [Nat.le_zero, List.length_eq_zero_iff]
      constructor
      · rintro rfl
        exact ⟨rfl, List.forall_mem_nil _⟩
      · exact And.left
  | succ most inductionHypothesis =>
      rw [upTo, reads_optional]
      constructor
      · rintro (⟨_, others, rfl, ⟨c, first, rfl⟩, reads⟩ | rfl)
        · obtain ⟨few, all⟩ := inductionHypothesis.mp reads
          exact ⟨Nat.succ_le_succ few, List.forall_mem_cons.mpr ⟨first, all⟩⟩
        · exact ⟨Nat.zero_le _, List.forall_mem_nil _⟩
      · rintro ⟨few, all⟩
        cases front with
        | nil => exact Or.inr rfl
        | cons c others =>
            obtain ⟨first, later⟩ := List.forall_mem_cons.mp all
            exact Or.inl ⟨[c], others, rfl, ⟨c, first, rfl⟩,
              inductionHypothesis.mpr ⟨Nat.le_of_succ_le_succ few, later⟩⟩

theorem reads_times {test : Char → Bool} {count : Nat} :
    (times test count).Reads front back ↔
      front.length = count ∧ ∀ c ∈ front, test c = true := by
  induction count generalizing front with
  | zero =>
      rw [List.length_eq_zero_iff]
      constructor
      · rintro rfl
        exact ⟨rfl, List.forall_mem_nil _⟩
      · exact And.left
  | succ count inductionHypothesis =>
      constructor
      · rintro ⟨_, others, rfl, ⟨c, first, rfl⟩, reads⟩
        obtain ⟨exact, all⟩ := inductionHypothesis.mp reads
        exact ⟨congrArg Nat.succ exact,
          List.forall_mem_cons.mpr ⟨first, all⟩⟩
      · rintro ⟨exact, all⟩
        obtain ⟨c, others, rfl⟩ := List.exists_cons_of_length_eq_add_one exact
        obtain ⟨first, later⟩ := List.forall_mem_cons.mp all
        exact ⟨[c], others, rfl, ⟨c, first, rfl⟩,
          inductionHypothesis.mpr ⟨Nat.succ.inj exact, later⟩⟩

end Building

/-! ## Characters that are never read -/

/-- Whether no test of the pattern lets the character pass. -/
def avoids (c : Char) : Pattern → Bool
  | one test => !test c
  | run test => !test c
  | empty => true
  | seq first second => first.avoids c && second.avoids c
  | alt left right => left.avoids c && right.avoids c
  | ending => true

theorem not_mem_of_reads
    {c : Char} {pattern : Pattern} (avoids : pattern.avoids c = true)
    {front back : List Char} (reads : pattern.Reads front back) :
    c ∉ front := by
  induction pattern generalizing front back with
  | one test =>
      obtain ⟨found, passes, rfl⟩ := reads
      intro member
      rw [← List.mem_singleton.mp member] at passes
      simp [Pattern.avoids, passes] at avoids
  | run test =>
      intro member
      simp [Pattern.avoids, reads c member] at avoids
  | empty =>
      rw [show front = [] from reads]
      exact List.not_mem_nil
  | seq first second firstHypothesis secondHypothesis =>
      rw [Pattern.avoids, Bool.and_eq_true] at avoids
      obtain ⟨left, right, rfl, readsFirst, readsSecond⟩ := reads
      intro member
      rcases List.mem_append.mp member with early | late
      · exact firstHypothesis avoids.1 readsFirst early
      · exact secondHypothesis avoids.2 readsSecond late
  | alt left right leftHypothesis rightHypothesis =>
      rw [Pattern.avoids, Bool.and_eq_true] at avoids
      rcases reads with readsLeft | readsRight
      · exact leftHypothesis avoids.1 readsLeft
      · exact rightHypothesis avoids.2 readsRight
  | ending =>
      rw [reads.1]
      exact List.not_mem_nil

end Pattern

end UtilityCss

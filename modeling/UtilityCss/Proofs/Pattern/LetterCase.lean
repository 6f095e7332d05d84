import Mathlib.Data.List.Forall2
import UtilityCss.Pattern

/-!
# Patterns and the case of letters

A pattern looks at a text through its tests only, one character at a time.  So
whether it can tell capitals from small letters can be computed: every test is
made on the twenty-six capitals.  A pattern whose tests cannot tell them apart
accepts a text in any spelling or in none.
-/

namespace UtilityCss

namespace Text

/-- Texts of one length that differ at most in the case of basic letters. -/
def Recased (left right : List Char) : Prop :=
  List.Forall₂ SameButCase left right

instance : DecidableRel SameButCase :=
  fun left right => inferInstanceAs (Decidable (left.toLower = right.toLower))

instance (left right : List Char) : Decidable (Recased left right) :=
  inferInstanceAs (Decidable (List.Forall₂ SameButCase left right))

def capitals : List Char :=
  "ABCDEFGHIJKLMNOPQRSTUVWXYZ".toList

theorem mem_capitals_or_toLower_eq (c : Char) :
    c ∈ capitals ∨ c.toLower = c := by
  have listed :
      ∀ place < 26, Char.ofNat (65 + place) ∈ capitals := by
    decide
  by_cases capital : 65 ≤ c.toNat ∧ c.toNat ≤ 90
  · have member := listed (c.toNat - 65) (by omega)
    have code : 65 + (c.toNat - 65) = c.toNat := by omega
    rw [code, Char.ofNat_toNat] at member
    exact Or.inl member
  · apply Or.inr
    delta Char.toLower
    exact dif_neg capital

/-- What is read off a character does not depend on the case of a letter. -/
def IgnoresCase {α : Type} (read : Char → α) : Prop :=
  ∀ c, read c.toLower = read c

/-- Whether capitals and their small letters read the same. -/
def sameOnCapitals {α : Type} [BEq α] (read : Char → α) : Bool :=
  capitals.all fun c => read c.toLower == read c

theorem ignoresCase_of_sameOnCapitals
    {α : Type} [BEq α] [LawfulBEq α] {read : Char → α}
    (same : sameOnCapitals read = true) : IgnoresCase read := by
  intro c
  rcases mem_capitals_or_toLower_eq c with capital | small
  · exact beq_iff_eq.mp (List.all_eq_true.mp same c capital)
  · rw [small]

theorem IgnoresCase.eq {α : Type} {read : Char → α}
    (ignores : IgnoresCase read) {left right : Char}
    (same : SameButCase left right) : read left = read right := by
  have lowered : left.toLower = right.toLower := same
  rw [← ignores left, lowered, ignores right]

theorem IgnoresCase.map_eq {α : Type} {read : Char → α}
    (ignores : IgnoresCase read) {left right : List Char}
    (same : Recased left right) : left.map read = right.map read := by
  induction same with
  | nil => rfl
  | cons first _ inductionHypothesis =>
      rw [List.map_cons, List.map_cons, ignores.eq first,
        inductionHypothesis]

/-- The test does not depend on the case of letters. -/
def Caseless (test : List Char → Bool) : Prop :=
  ∀ left right, Recased left right → test left = test right

end Text

namespace Pattern

open Text

/-- Whether none of the tests of a pattern tells a capital from its small
letter. -/
def ignoresCase : Pattern → Bool
  | one test => sameOnCapitals test
  | run test => sameOnCapitals test
  | empty => true
  | seq first second => first.ignoresCase && second.ignoresCase
  | alt left right => left.ignoresCase && right.ignoresCase
  | ending => true

/-- Letters that are written in a pattern stand for both cases. -/
theorem ignoresCase_literal (text : String) :
    (literal text).ignoresCase = true := by
  have folded : IgnoresCase foldLetter :=
    ignoresCase_of_sameOnCapitals (by decide)
  rw [literal]
  induction text.toList with
  | nil => rfl
  | cons expected letters inductionHypothesis =>
      rw [List.foldr_cons, ignoresCase, inductionHypothesis,
        Bool.and_true, ignoresCase, sameOnCapitals, List.all_eq_true]
      intro c _
      simp [folded c]

theorem ignoresCase_literals (listed : List String) :
    (literals listed).ignoresCase = true := by
  induction listed with
  | nil => decide
  | cons text others inductionHypothesis =>
      cases others with
      | nil => exact ignoresCase_literal text
      | cons next rest =>
          rw [literals, ignoresCase, ignoresCase_literal,
            inductionHypothesis]
          · rfl
          · exact List.cons_ne_nil next rest

theorem caseless_acceptsRun {test : Char → Bool}
    (ignores : IgnoresCase test) {rest : List Char → Bool}
    (caseless : Caseless rest) : Caseless (acceptsRun test rest) := by
  intro left right same
  induction same with
  | nil => rfl
  | @cons head head' tail tail' first others inductionHypothesis =>
      have whole : Recased (head :: tail) (head' :: tail') :=
        List.Forall₂.cons first others
      rw [acceptsRun, acceptsRun, caseless _ _ whole, ignores.eq first,
        inductionHypothesis]

theorem caseless_isEnd :
    Caseless fun chars => chars == [] || chars == ['\n'] := by
  -- the line feed is no letter, so it is written in one way only
  have feed : IgnoresCase (· == '\n') :=
    ignoresCase_of_sameOnCapitals (by decide)
  intro left right same
  cases same with
  | nil => rfl
  | @cons head head' _ _ first others =>
      cases others with
      | nil =>
          have heads : (head == '\n') = (head' == '\n') := feed.eq first
          simpa using heads
      | cons _ _ => simp

/-- Reading such a pattern does not depend on the case of letters, if what
follows it does not. -/
theorem caseless_accepts {pattern : Pattern}
    (ignores : pattern.ignoresCase = true) {rest : List Char → Bool}
    (caseless : Caseless rest) : Caseless (pattern.accepts rest) := by
  induction pattern generalizing rest with
  | one test =>
      intro left right same
      cases same with
      | nil => rfl
      | cons first others =>
          rw [accepts, accepts, (ignoresCase_of_sameOnCapitals ignores).eq first,
            caseless _ _ others]
  | run test => exact caseless_acceptsRun (ignoresCase_of_sameOnCapitals ignores) caseless
  | empty => exact caseless
  | seq first second firstHypothesis secondHypothesis =>
      rw [ignoresCase, Bool.and_eq_true] at ignores
      exact firstHypothesis ignores.1 (secondHypothesis ignores.2 caseless)
  | alt first second firstHypothesis secondHypothesis =>
      rw [ignoresCase, Bool.and_eq_true] at ignores
      intro left right same
      rw [accepts, accepts, firstHypothesis ignores.1 caseless _ _ same,
        secondHypothesis ignores.2 caseless _ _ same]
  | ending =>
      intro left right same
      have ends := caseless_isEnd left right same
      simp only at ends
      rw [accepts, accepts, ends, caseless _ _ same]

theorem caseless_matchesStart {pattern : Pattern}
    (ignores : pattern.ignoresCase = true) : Caseless pattern.matchesStart :=
  caseless_accepts ignores fun _ _ _ => rfl

theorem caseless_occursIn {pattern : Pattern}
    (ignores : pattern.ignoresCase = true) : Caseless pattern.occursIn := by
  intro left right same
  induction same with
  | nil => rfl
  | @cons head head' tail tail' first others inductionHypothesis =>
      have whole : Recased (head :: tail) (head' :: tail') :=
        List.Forall₂.cons first others
      rw [occursIn, occursIn, caseless_matchesStart ignores _ _ whole,
        inductionHypothesis]

end Pattern

end UtilityCss

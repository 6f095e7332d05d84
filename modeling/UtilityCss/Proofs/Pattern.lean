import UtilityCss.Pattern
import UtilityCss.Proofs.Text.Blank
import UtilityCss.Text.Alphanumeric

/-!
# Patterns and the blanks of a text

A pattern whose characters are never blank, except for runs of blanks between
them, cannot tell how many blanks stand where some stand.  So whether it occurs
in a text depends on the words of the text only.
-/

namespace UtilityCss

namespace Text

/-! ## Blank characters one by one -/

def blankCodes : List Nat :=
  [0x09, 0x0A, 0x0B, 0x0C, 0x0D, 0x1C, 0x1D, 0x1E, 0x1F, 0x20, 0x85, 0xA0,
    0x1680, 0x2000, 0x2001, 0x2002, 0x2003, 0x2004, 0x2005, 0x2006, 0x2007,
    0x2008, 0x2009, 0x200A, 0x2028, 0x2029, 0x202F, 0x205F, 0x3000]

theorem mem_blankCodes_of_isBlank {c : Char} (blank : isBlank c = true) :
    c.toNat ∈ blankCodes := by
  simp only [isBlank, Bool.or_eq_true, Bool.and_eq_true, decide_eq_true_eq,
    beq_iff_eq] at blank
  simp only [blankCodes, List.mem_cons, List.not_mem_nil, or_false]
  omega

/-- What holds of every blank character holds of a character that is blank. -/
theorem of_isBlank (property : Char → Prop)
    (holds : ∀ code ∈ blankCodes, property (Char.ofNat code)) {c : Char}
    (blank : isBlank c = true) : property c := by
  have listed := holds c.toNat (mem_blankCodes_of_isBlank blank)
  rwa [Char.ofNat_toNat] at listed

theorem isWord_of_isBlank {c : Char} (blank : isBlank c = true) :
    isWord c = false :=
  of_isBlank (fun c => isWord c = false) (by decide +kernel) blank

theorem foldLetter_of_isBlank {c : Char} (blank : isBlank c = true) :
    foldLetter c = c :=
  of_isBlank (fun c => foldLetter c = c) (by decide +kernel) blank

/-! ## Texts that differ in their blanks -/

/-- Two texts with the same words, both of which go on with a word or neither
of which does. -/
structure Alike (left right : List Char) : Prop where
  words : words left = words right
  start : startsWord left = startsWord right

theorem words_trimStart (chars : List Char) :
    words (trimStart chars) = words chars := by
  have leading : AllBlank (chars.takeWhile isBlank) := fun c member =>
    List.all_eq_true.mp List.all_takeWhile c member
  have around := words_append_of_allBlank leading (trimStart chars)
  rw [trimStart, List.takeWhile_append_dropWhile] at around
  exact around.symm

theorem trimStart_cons_of_isBlank {head : Char}
    (blank : isBlank head = true) (tail : List Char) :
    trimStart (head :: tail) = trimStart tail :=
  List.dropWhile_cons_of_pos blank

theorem trimStart_cons_of_not_isBlank {head : Char}
    (solid : ¬ isBlank head = true) (tail : List Char) :
    trimStart (head :: tail) = head :: tail :=
  List.dropWhile_cons_of_neg solid

/-- A text without its leading blanks is empty or goes on with a word. -/
theorem trimStart_cases (chars : List Char) :
    trimStart chars = [] ∨
      ∃ head tail, trimStart chars = head :: tail ∧
        ¬ isBlank head = true := by
  induction chars with
  | nil => exact Or.inl rfl
  | cons head tail inductionHypothesis =>
      by_cases blank : isBlank head = true
      · rw [trimStart_cons_of_isBlank blank]
        exact inductionHypothesis
      · exact Or.inr
          ⟨head, tail, trimStart_cons_of_not_isBlank blank tail, blank⟩

theorem startsWord_trimStart (chars : List Char) :
    startsWord (trimStart chars) = true ↔ words chars ≠ [] := by
  rw [← words_trimStart chars]
  rcases trimStart_cases chars with empty | ⟨head, tail, shape, solid⟩
  · rw [empty]
    simp [startsWord, words]
  · have starts : startsWord (trimStart chars) = true := by
      simp [shape, startsWord, solid]
    exact ⟨fun _ => words_ne_nil_of_startsWord starts, fun _ => starts⟩

theorem alike_trimStart {left right : List Char}
    (same : words left = words right) :
    Alike (trimStart left) (trimStart right) where
  words := by rw [words_trimStart, words_trimStart, same]
  start := by
    rw [Bool.eq_iff_iff, startsWord_trimStart, startsWord_trimStart, same]

/-- A character of a word stands in front of the next word, or is a word by
itself. -/
theorem words_cons_cases {head : Char} (solid : ¬ isBlank head = true)
    (tail : List Char) :
    (startsWord tail = true ∧ ∃ word others, word ≠ [] ∧
        words tail = word :: others ∧
        words (head :: tail) = (head :: word) :: others) ∨
      (startsWord tail = false ∧
        words (head :: tail) = [head] :: words tail) := by
  by_cases starts : startsWord tail = true
  · obtain ⟨word, others, parts⟩ :=
      List.exists_cons_of_ne_nil (words_ne_nil_of_startsWord starts)
    refine Or.inl ⟨starts, word, others, ?_, parts, ?_⟩
    · exact ne_nil_of_mem_words tail word (by simp [parts])
    · rw [words_cons_of_startsWord solid starts, parts, joinHead]
  · exact Or.inr ⟨by simpa using starts, words_cons_of_pause solid starts⟩

/-- Texts that are alike and go on with a word go on with the same character,
and what follows is alike. -/
theorem Alike.of_cons {head head' : Char} {left right : List Char}
    (solid : ¬ isBlank head = true) (solid' : ¬ isBlank head' = true)
    (alike : Alike (head :: left) (head' :: right)) :
    head = head' ∧ Alike left right := by
  have same := alike.words
  rcases words_cons_cases solid left with
    ⟨starts, word, others, filled, parts, shape⟩ | ⟨pause, shape⟩
  · rcases words_cons_cases solid' right with
      ⟨starts', word', others', _, parts', shape'⟩ | ⟨_, shape'⟩
    · rw [shape, shape', List.cons.injEq, List.cons.injEq] at same
      obtain ⟨⟨heads, rfl⟩, rfl⟩ := same
      exact ⟨heads, parts.trans parts'.symm, starts.trans starts'.symm⟩
    · rw [shape, shape', List.cons.injEq, List.cons.injEq] at same
      exact absurd same.1.2 filled
  · rcases words_cons_cases solid' right with
      ⟨_, word', others', filled', _, shape'⟩ | ⟨pause', shape'⟩
    · rw [shape, shape', List.cons.injEq, List.cons.injEq] at same
      exact absurd same.1.2.symm filled'
    · rw [shape, shape', List.cons.injEq, List.cons.injEq] at same
      exact ⟨same.1.1, same.2, pause.trans pause'.symm⟩

theorem Alike.cases {left right : List Char} (alike : Alike left right) :
    (startsWord left = false ∧ startsWord right = false) ∨
      ∃ head tail tail', left = head :: tail ∧ right = head :: tail' ∧
        ¬ isBlank head = true ∧ Alike tail tail' := by
  cases starts : startsWord left with
  | false => exact Or.inl ⟨rfl, alike.start ▸ starts⟩
  | true =>
      have starts' := alike.start ▸ starts
      cases left with
      | nil => cases starts
      | cons head tail =>
          cases right with
          | nil => cases starts'
          | cons head' tail' =>
              have solid : ¬ isBlank head = true := by
                simpa [startsWord] using starts
              have solid' : ¬ isBlank head' = true := by
                simpa [startsWord] using starts'
              obtain ⟨rfl, rest⟩ := alike.of_cons solid solid'
              exact Or.inr ⟨head, tail, tail', rfl, rfl, solid, rest⟩

end Text

namespace Pattern

open Text

/-- The test cannot tell texts apart that are alike. -/
def Respects (test : List Char → Bool) : Prop :=
  ∀ left right, Alike left right → test left = test right

/-- The pattern cannot tell texts apart that are alike, whatever is to follow
it. -/
def IgnoresWidths (pattern : Pattern) : Prop :=
  ∀ rest, Respects rest → Respects (pattern.accepts rest)

/-- The pattern can only be read where a word goes on. -/
def NeedsWord (pattern : Pattern) : Prop :=
  ∀ rest chars, startsWord chars = false →
    pattern.accepts rest chars = false

section Reading

variable {test : Char → Bool} (solid : ∀ c, isBlank c = true → test c = false)

include solid

theorem needsWord_one : NeedsWord (one test) := by
  intro rest chars pause
  cases chars with
  | nil => rfl
  | cons head tail =>
      have blank : isBlank head = true := by simpa [startsWord] using pause
      rw [accepts, solid head blank, Bool.false_and]

theorem ignoresWidths_one : IgnoresWidths (one test) := by
  intro rest respects left right alike
  rcases alike.cases with ⟨pause, pause'⟩ |
    ⟨head, tail, tail', rfl, rfl, _, later⟩
  · rw [needsWord_one solid rest left pause,
      needsWord_one solid rest right pause']
  · rw [accepts, accepts, respects tail tail' later]

theorem acceptsRun_of_pause (rest : List Char → Bool) {chars : List Char}
    (pause : startsWord chars = false) :
    acceptsRun test rest chars = rest chars := by
  cases chars with
  | nil => rfl
  | cons head tail =>
      have blank : isBlank head = true := by simpa [startsWord] using pause
      rw [acceptsRun, solid head blank, Bool.false_and, Bool.or_false]

theorem ignoresWidths_run : IgnoresWidths (run test) := by
  intro rest respects left
  -- the right text is taken apart along with the left one
  induction left with
  | nil =>
      intro right alike
      have pause' : startsWord right = false := alike.start.symm
      rw [accepts, accepts, acceptsRun_of_pause solid rest rfl,
        acceptsRun_of_pause solid rest pause', respects [] right alike]
  | cons first others inductionHypothesis =>
      intro right alike
      rcases alike.cases with ⟨pause, pause'⟩ |
        ⟨head, tail, tail', same, rfl, _, later⟩
      · rw [accepts, accepts, acceptsRun_of_pause solid rest pause,
          acceptsRun_of_pause solid rest pause', respects _ right alike]
      · obtain ⟨rfl, rfl⟩ := List.cons.inj same
        have after := inductionHypothesis tail' later
        simp only [accepts] at after ⊢
        rw [acceptsRun, acceptsRun, respects _ _ alike, after]

end Reading

theorem ignoresWidths_empty : IgnoresWidths empty :=
  fun _ respects => respects

theorem IgnoresWidths.seq {first second : Pattern}
    (ignores : IgnoresWidths first) (ignores' : IgnoresWidths second) :
    IgnoresWidths (seq first second) :=
  fun rest respects => ignores _ (ignores' rest respects)

theorem NeedsWord.seq {first : Pattern} (needs : NeedsWord first)
    (second : Pattern) : NeedsWord (seq first second) :=
  fun rest => needs (second.accepts rest)

/-- In front of a word a run of blanks is read as a whole. -/
theorem acceptsRun_isBlank {rest : List Char → Bool}
    (needs : ∀ chars, startsWord chars = false → rest chars = false)
    (chars : List Char) :
    acceptsRun isBlank rest chars = rest (trimStart chars) := by
  induction chars with
  | nil => rfl
  | cons head tail inductionHypothesis =>
      by_cases blank : isBlank head = true
      · have pause : startsWord (head :: tail) = false := by
          simp [startsWord, blank]
        rw [acceptsRun, needs _ pause, blank, Bool.false_or, Bool.true_and,
          inductionHypothesis, trimStart_cons_of_isBlank blank]
      · rw [acceptsRun, trimStart_cons_of_not_isBlank blank,
          Bool.eq_false_iff.mpr blank, Bool.false_and, Bool.or_false]

/-- Blanks in front of a word may be of any number. -/
theorem ignoresWidths_blanks {second : Pattern}
    (ignores : IgnoresWidths second) (needs : NeedsWord second) :
    IgnoresWidths (seq (run isBlank) second) := by
  intro rest respects left right alike
  simp only [accepts]
  rw [acceptsRun_isBlank (needs rest), acceptsRun_isBlank (needs rest)]
  exact ignores rest respects _ _ (alike_trimStart alike.words)

/-! ## Literals -/

theorem foldLetter_ne_of_isBlank {expected c : Char}
    (solid : isBlank expected = false) (blank : isBlank c = true) :
    (foldLetter c == expected) = false := by
  rw [foldLetter_of_isBlank blank, beq_eq_false_iff_ne]
  rintro rfl
  rw [blank] at solid
  cases solid

theorem ignoresWidths_literal {text : String}
    (solid : text.toList.any isBlank = false) :
    IgnoresWidths (literal text) := by
  rw [literal]
  generalize text.toList = letters at solid ⊢
  induction letters with
  | nil => exact ignoresWidths_empty
  | cons head tail inductionHypothesis =>
      rw [List.any_cons, Bool.or_eq_false_iff] at solid
      have first : IgnoresWidths (one fun c => foldLetter c == head) :=
        ignoresWidths_one fun _ => foldLetter_ne_of_isBlank solid.1
      exact first.seq (inductionHypothesis solid.2)

theorem needsWord_literal {text : String} (filled : text.toList ≠ [])
    (solid : text.toList.any isBlank = false) :
    NeedsWord (literal text) := by
  rw [literal]
  cases parts : text.toList with
  | nil => exact absurd parts filled
  | cons head tail =>
      rw [parts, List.any_cons, Bool.or_eq_false_iff] at solid
      have first : NeedsWord (one fun c => foldLetter c == head) :=
        needsWord_one fun _ => foldLetter_ne_of_isBlank solid.1
      exact first.seq _

/-! ## Occurrences -/

/-- A text in which a literal occurs has a character that is read as its
first one. -/
theorem exists_mem_of_occursIn_literal {text : String} {first : Char}
    (opens : text.toList.head? = some first) {chars : List Char}
    (occurs : (literal text).occursIn chars = true) :
    ∃ c ∈ chars, foldLetter c = first := by
  obtain ⟨others, parts⟩ := List.head?_eq_some_iff.mp opens
  rw [literal, parts, List.foldr_cons] at occurs
  induction chars with
  | nil => cases occurs
  | cons head tail inductionHypothesis =>
      rw [occursIn, Bool.or_eq_true, matchesStart, accepts, accepts,
        Bool.and_eq_true, beq_iff_eq] at occurs
      rcases occurs with ⟨here, _⟩ | later
      · exact ⟨head, List.mem_cons_self, here⟩
      · obtain ⟨c, member, folded⟩ := inductionHypothesis later
        exact ⟨c, List.mem_cons_of_mem head member, folded⟩

section Occurring

variable {pattern : Pattern} (needs : NeedsWord pattern)

include needs

theorem occursIn_trimStart (chars : List Char) :
    pattern.occursIn (trimStart chars) = pattern.occursIn chars := by
  induction chars with
  | nil => rfl
  | cons head tail inductionHypothesis =>
      by_cases blank : isBlank head = true
      · have pause : startsWord (head :: tail) = false := by
          simp [startsWord, blank]
        rw [trimStart_cons_of_isBlank blank, inductionHypothesis, occursIn,
          matchesStart, needs _ _ pause, Bool.false_or]
      · rw [trimStart_cons_of_not_isBlank blank]

/-- Whether such a pattern occurs in a text can be told from its words. -/
theorem occursIn_eq_of_words_eq (ignores : IgnoresWidths pattern)
    {left right : List Char} (same : words left = words right) :
    pattern.occursIn left = pattern.occursIn right := by
  induction left generalizing right with
  | nil =>
      rw [← occursIn_trimStart needs right]
      have alike : Alike (trimStart []) (trimStart right) :=
        alike_trimStart same
      rcases trimStart_cases right with empty | ⟨head, tail, shape, solid⟩
      · rw [empty]
      · have start := alike.start
        rw [shape] at start
        simp [startsWord, trimStart, solid] at start
  | cons first others inductionHypothesis =>
      -- a leading blank counts for nothing, and behind it both texts go on
      -- with the same character
      by_cases blank : isBlank first = true
      · rw [← occursIn_trimStart needs (first :: others),
          trimStart_cons_of_isBlank blank, occursIn_trimStart needs others]
        exact inductionHypothesis (words_cons_blank blank others ▸ same)
      · have alike := alike_trimStart same
        rw [trimStart_cons_of_not_isBlank blank] at alike
        rw [← occursIn_trimStart needs right]
        rcases alike.cases with ⟨pause, _⟩ |
          ⟨head, tail, tail', shape, shape', _, later⟩
        · simp [startsWord, blank] at pause
        · obtain ⟨rfl, rfl⟩ := List.cons.inj shape
          have here := ignores (fun _ => true) (fun _ _ _ => rfl) _ _ alike
          rw [shape'] at here ⊢
          rw [occursIn, occursIn, matchesStart, matchesStart, here,
            inductionHypothesis later.words]

end Occurring

end Pattern

end UtilityCss

import UtilityCss.Text.Blank

/-!
# Words between blanks

Trimming and collapsing blanks change no word of a text.  A text that is
collapsed and then trimmed is exactly its words put one space apart, so texts
with the same words have one normal form.
-/

namespace UtilityCss.Text

/-- A run of blanks, possibly empty. -/
def AllBlank (chars : List Char) : Prop :=
  ∀ c ∈ chars, isBlank c = true

theorem isBlank_space : isBlank ' ' = true := by
  decide

/-! ## Blanks around a text -/

/-- A text is its trimmed form with blanks around it. -/
theorem exists_blanks_around (chars : List Char) :
    ∃ before after,
      AllBlank before ∧ AllBlank after ∧
        chars = before ++ trim chars ++ after := by
  let start := trimStart chars
  refine ⟨chars.takeWhile isBlank,
    (start.reverse.takeWhile isBlank).reverse, ?_, ?_, ?_⟩
  · intro c member
    exact List.all_eq_true.mp (List.all_takeWhile) c member
  · intro c member
    exact List.all_eq_true.mp (List.all_takeWhile) c
      (List.mem_reverse.mp member)
  · have ending :
        trimEnd start ++ (start.reverse.takeWhile isBlank).reverse =
          start := by
      rw [trimEnd, ← List.reverse_append, List.takeWhile_append_dropWhile,
        List.reverse_reverse]
    calc
      chars = chars.takeWhile isBlank ++ start :=
        List.takeWhile_append_dropWhile.symm
      _ = chars.takeWhile isBlank ++
            (trim chars ++ (start.reverse.takeWhile isBlank).reverse) := by
        rw [trim, ending]
      _ = _ := (List.append_assoc _ _ _).symm

theorem AllBlank.filter {chars : List Char} (blank : AllBlank chars)
    (keep : Char → Bool) : AllBlank (chars.filter keep) :=
  fun c member => blank c (List.mem_filter.mp member).1

/-! ## Words -/

theorem words_cons_blank {head : Char} (blank : isBlank head = true)
    (tail : List Char) : words (head :: tail) = words tail := by
  rw [words, if_pos blank]

theorem words_cons_of_startsWord {head : Char}
    (solid : ¬ isBlank head = true) {tail : List Char}
    (starts : startsWord tail = true) :
    words (head :: tail) = joinHead head (words tail) := by
  rw [words, if_neg solid, if_pos starts]

theorem words_cons_of_pause {head : Char}
    (solid : ¬ isBlank head = true) {tail : List Char}
    (pause : ¬ startsWord tail = true) :
    words (head :: tail) = [head] :: words tail := by
  rw [words, if_neg solid, if_neg pause]

theorem words_append_of_allBlank {blanks : List Char}
    (blank : AllBlank blanks) (chars : List Char) :
    words (blanks ++ chars) = words chars := by
  induction blanks with
  | nil => rfl
  | cons head tail inductionHypothesis =>
      have headBlank : isBlank head = true :=
        blank head List.mem_cons_self
      rw [List.cons_append, words_cons_blank headBlank]
      exact inductionHypothesis fun c member =>
        blank c (List.mem_cons_of_mem head member)

theorem words_of_allBlank {blanks : List Char} (blank : AllBlank blanks) :
    words blanks = [] := by
  simpa [words] using words_append_of_allBlank blank []

theorem startsWord_append_blanks {blanks : List Char}
    (blank : AllBlank blanks) (chars : List Char) :
    startsWord (chars ++ blanks) = startsWord chars := by
  cases chars with
  | cons head tail => rfl
  | nil =>
      cases blanks with
      | nil => rfl
      | cons head tail =>
          simp [startsWord, blank head List.mem_cons_self]

/-- Blanks at the end of a text belong to no word. -/
theorem words_append_blanks {blanks : List Char}
    (blank : AllBlank blanks) (chars : List Char) :
    words (chars ++ blanks) = words chars := by
  induction chars with
  | nil =>
      rw [List.nil_append, words_of_allBlank blank]
      rfl
  | cons head tail inductionHypothesis =>
      rw [List.cons_append, words, words, inductionHypothesis,
        startsWord_append_blanks blank]

theorem words_trim (chars : List Char) :
    words (trim chars) = words chars := by
  obtain ⟨before, after, beforeBlank, afterBlank, partition⟩ :=
    exists_blanks_around chars
  have around := words_append_blanks afterBlank (before ++ trim chars)
  rw [← partition, words_append_of_allBlank beforeBlank] at around
  exact around.symm

/-- Characters that are no blanks may be dropped before or after trimming. -/
theorem words_filter_trim (keep : Char → Bool) (chars : List Char) :
    words ((trim chars).filter keep) = words (chars.filter keep) := by
  obtain ⟨before, after, beforeBlank, afterBlank, partition⟩ :=
    exists_blanks_around chars
  have around :=
    words_append_blanks (afterBlank.filter keep)
      (before.filter keep ++ (trim chars).filter keep)
  rw [← List.filter_append, ← List.filter_append, ← partition,
    List.filter_append,
    words_append_of_allBlank (beforeBlank.filter keep)] at around
  exact around.symm

theorem words_collapseAux (afterBlank : Bool) (chars : List Char) :
    words (collapseAux afterBlank chars) = words chars := by
  induction chars generalizing afterBlank with
  | nil => rfl
  | cons head tail inductionHypothesis =>
      by_cases blank : isBlank head = true
      · rw [collapseAux, if_pos blank, words_cons_blank blank]
        cases afterBlank with
        | false =>
            rw [if_neg (by decide), words_cons_blank isBlank_space,
              inductionHypothesis]
        | true => rw [if_pos rfl, inductionHypothesis]
      · have starts :
            startsWord (collapseAux false tail) = startsWord tail := by
          cases tail with
          | nil => rfl
          | cons next rest =>
              by_cases nextBlank : isBlank next = true
              · simp [collapseAux, startsWord, nextBlank, isBlank_space]
              · simp [collapseAux, startsWord, nextBlank]
        rw [collapseAux, if_neg blank, words, if_neg blank, starts,
          inductionHypothesis, words, if_neg blank]

theorem words_collapseBlanks (chars : List Char) :
    words (collapseBlanks chars) = words chars :=
  words_collapseAux false chars

/-! ## The normal form -/

theorem trimEnd_cons_of_not_blank {head : Char}
    (solid : ¬ isBlank head = true) (tail : List Char) :
    trimEnd (head :: tail) = head :: trimEnd tail := by
  rw [trimEnd, trimEnd, List.reverse_cons, List.dropWhile_append]
  by_cases rest : (tail.reverse.dropWhile isBlank).isEmpty
  · rw [if_pos rest, List.isEmpty_iff.mp rest]
    simp [solid]
  · rw [if_neg rest]
    simp

theorem trimEnd_cons_blank {head : Char} (blank : isBlank head = true)
    (tail : List Char) :
    trimEnd (head :: tail) =
      if trimEnd tail = [] then [] else head :: trimEnd tail := by
  rw [trimEnd, trimEnd, List.reverse_cons, List.dropWhile_append]
  by_cases rest : (tail.reverse.dropWhile isBlank).isEmpty
  · rw [if_pos rest, List.isEmpty_iff.mp rest]
    simp [blank]
  · have remains : tail.reverse.dropWhile isBlank ≠ [] := fun empty =>
      rest (List.isEmpty_iff.mpr empty)
    rw [if_neg rest, if_neg (by simpa using remains)]
    simp

theorem ne_nil_of_mem_joinHead {c : Char} {parts : List (List Char)}
    (filled : ∀ word ∈ parts, word ≠ []) :
    ∀ word ∈ joinHead c parts, word ≠ [] := by
  intro word member
  cases parts with
  | nil => simp_all [joinHead]
  | cons first others =>
      rcases List.mem_cons.mp member with rfl | later
      · exact List.cons_ne_nil _ _
      · exact filled word (List.mem_cons_of_mem first later)

theorem ne_nil_of_mem_words (chars : List Char) :
    ∀ word ∈ words chars, word ≠ [] := by
  induction chars with
  | nil =>
      intro word member
      cases member
  | cons head tail inductionHypothesis =>
      by_cases blank : isBlank head = true
      · rw [words_cons_blank blank]
        exact inductionHypothesis
      · by_cases starts : startsWord tail = true
        · rw [words_cons_of_startsWord blank starts]
          exact ne_nil_of_mem_joinHead inductionHypothesis
        · rw [words_cons_of_pause blank starts]
          intro word member
          rcases List.mem_cons.mp member with rfl | later
          · exact List.cons_ne_nil _ _
          · exact inductionHypothesis word later

theorem joinHead_ne_nil (c : Char) (parts : List (List Char)) :
    joinHead c parts ≠ [] := by
  cases parts with
  | nil => exact List.cons_ne_nil _ _
  | cons word others => exact List.cons_ne_nil _ _

theorem words_ne_nil_of_startsWord {chars : List Char}
    (starts : startsWord chars = true) : words chars ≠ [] := by
  cases chars with
  | nil => cases starts
  | cons head tail =>
      have solid : ¬ isBlank head = true := by
        simpa [startsWord] using starts
      by_cases next : startsWord tail = true
      · rw [words_cons_of_startsWord solid next]
        exact joinHead_ne_nil head (words tail)
      · rw [words_cons_of_pause solid next]
        exact List.cons_ne_nil _ _

theorem joinWords_joinHead (c : Char) (word : List Char)
    (others : List (List Char)) :
    joinWords (joinHead c (word :: others)) =
      c :: joinWords (word :: others) := by
  cases others with
  | nil => simp [joinWords, joinHead]
  | cons next rest =>
      simp [joinWords, joinHead, List.intercalate, List.intersperse]

theorem joinWords_cons_ne_nil {word : List Char} (filled : word ≠ [])
    (others : List (List Char)) : joinWords (word :: others) ≠ [] := by
  cases others with
  | nil => simpa [joinWords, List.intercalate] using filled
  | cons next rest =>
      simp [joinWords, List.intercalate, List.intersperse, filled]

theorem joinWords_cons_cons (word next : List Char)
    (others : List (List Char)) :
    joinWords (word :: next :: others) =
      word ++ ' ' :: joinWords (next :: others) := by
  simp [joinWords, List.intercalate, List.intersperse]

/-- What is left of a text whose leading blanks are dropped, and of one that
goes on after a character of a word.  Both are needed at once, because every
blank turns the second case into the first. -/
private theorem trimEnd_collapseAux (chars : List Char) :
    trimEnd (collapseAux true chars) = joinWords (words chars) ∧
      ∀ head, ¬ isBlank head = true →
        trimEnd (head :: collapseAux false chars) =
          joinWords (words (head :: chars)) := by
  induction chars with
  | nil =>
      refine ⟨rfl, fun head solid => ?_⟩
      rw [collapseAux, trimEnd_cons_of_not_blank solid,
        words_cons_of_pause solid (by decide)]
      rfl
  | cons next tail inductionHypothesis =>
      obtain ⟨dropped, continued⟩ := inductionHypothesis
      by_cases blank : isBlank next = true
      · refine ⟨?_, fun head solid => ?_⟩
        · rw [collapseAux, if_pos blank, if_pos rfl, dropped,
            words_cons_blank blank]
        · have pause : ¬ startsWord (next :: tail) = true := by
            simp [startsWord, blank]
          rw [collapseAux, if_pos blank, if_neg (by decide),
            trimEnd_cons_of_not_blank solid,
            trimEnd_cons_blank isBlank_space, dropped,
            words_cons_of_pause solid pause, words_cons_blank blank]
          cases parts : words tail with
          | nil => rfl
          | cons word others =>
              have filled : word ≠ [] :=
                ne_nil_of_mem_words tail word (by simp [parts])
              rw [joinWords_cons_cons,
                if_neg (joinWords_cons_ne_nil filled others)]
              rfl
      · have step :
            collapseAux false (next :: tail) =
              next :: collapseAux false tail := by
          rw [collapseAux, if_neg blank]
        refine ⟨?_, fun head solid => ?_⟩
        · rw [collapseAux, if_neg blank]
          exact continued next blank
        · have starts : startsWord (next :: tail) = true := by
            simp [startsWord, blank]
          obtain ⟨word, others, parts⟩ :=
            List.exists_cons_of_ne_nil (words_ne_nil_of_startsWord starts)
          rw [step, trimEnd_cons_of_not_blank solid,
            continued next blank, words_cons_of_startsWord solid starts,
            parts, joinWords_joinHead]

private theorem trimStart_collapseAux_true (chars : List Char) :
    trimStart (collapseAux true chars) = collapseAux true chars := by
  induction chars with
  | nil => rfl
  | cons head tail inductionHypothesis =>
      by_cases blank : isBlank head = true
      · rw [collapseAux, if_pos blank, if_pos rfl]
        exact inductionHypothesis
      · rw [collapseAux, if_neg blank, trimStart,
          List.dropWhile_cons_of_neg blank]

theorem trimStart_collapseBlanks (chars : List Char) :
    trimStart (collapseBlanks chars) = collapseAux true chars := by
  rw [collapseBlanks]
  cases chars with
  | nil => rfl
  | cons head tail =>
      by_cases blank : isBlank head = true
      · rw [collapseAux, if_pos blank, if_neg (by decide), collapseAux,
          if_pos blank, if_pos rfl, trimStart,
          List.dropWhile_cons_of_pos isBlank_space]
        exact trimStart_collapseAux_true tail
      · rw [collapseAux, if_neg blank, collapseAux, if_neg blank,
          trimStart, List.dropWhile_cons_of_neg blank]

/-- Collapsing and trimming a text puts its words one space apart. -/
theorem trim_collapseBlanks (chars : List Char) :
    trim (collapseBlanks chars) = joinWords (words chars) := by
  rw [trim, trimStart_collapseBlanks]
  exact (trimEnd_collapseAux chars).1

/-! ## Characters of the normal form -/

theorem length_collapseAux_le (afterBlank : Bool) (chars : List Char) :
    (collapseAux afterBlank chars).length ≤ chars.length := by
  induction chars generalizing afterBlank with
  | nil => exact Nat.le_refl 0
  | cons head tail inductionHypothesis =>
      have shorter := inductionHypothesis true
      have shorter' := inductionHypothesis false
      rw [collapseAux]
      split
      · split
        · exact Nat.le_succ_of_le shorter
        · exact Nat.succ_le_succ shorter
      · exact Nat.succ_le_succ shorter'

theorem mem_collapseAux {c : Char} {afterBlank : Bool} {chars : List Char}
    (member : c ∈ collapseAux afterBlank chars) : c = ' ' ∨ c ∈ chars := by
  induction chars generalizing afterBlank with
  | nil => cases member
  | cons head tail inductionHypothesis =>
      have later {afterBlank : Bool}
          (inside : c ∈ collapseAux afterBlank tail) :
          c = ' ' ∨ c ∈ head :: tail :=
        (inductionHypothesis inside).imp_right (List.mem_cons_of_mem head)
      rw [collapseAux] at member
      split at member
      · split at member
        · exact later member
        · rcases List.mem_cons.mp member with space | inside
          · exact Or.inl space
          · exact later inside
      · rcases List.mem_cons.mp member with rfl | inside
        · exact Or.inr List.mem_cons_self
        · exact later inside

theorem trim_sublist (chars : List Char) : (trim chars).Sublist chars := by
  have ending :
      ((trimStart chars).reverse.dropWhile isBlank).Sublist
        (trimStart chars).reverse :=
    List.dropWhile_sublist isBlank
  have kept : (trim chars).Sublist (trimStart chars) := by
    rw [trim, trimEnd]
    simpa using List.reverse_sublist.mpr ending
  exact kept.trans (List.dropWhile_sublist isBlank)

end UtilityCss.Text

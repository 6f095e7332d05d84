import UtilityCss.Proofs.Text.Blank

/-!
# Parting a text at its blanks

Which words a text has can be told without cutting it: none of them is empty or
has a blank in it, and the text consists of them with blanks between any two.
There is one such parting only.  Where a text pauses it can be cut in two, so
whatever drops no blank can be done to every word by itself.
-/

namespace UtilityCss.Text

/-- A run of characters of which none is blank, possibly empty. -/
def Solid (chars : List Char) : Prop :=
  ∀ c ∈ chars, isBlank c = false

/-- The text consists of the words, with blanks between them and around. -/
inductive Parted : List Char → List (List Char) → Prop
  | blanks {chars : List Char} (blank : AllBlank chars) : Parted chars []
  | word {before word after : List Char} {others : List (List Char)}
      (blank : AllBlank before) (filled : word ≠ []) (solid : Solid word)
      (pause : startsWord after = false) (parted : Parted after others) :
      Parted (before ++ (word ++ after)) (word :: others)

/-! ## Cutting a text -/

/-- A text can be cut in two where no word goes on. -/
theorem words_append_of_pause
    {right : List Char} (pause : startsWord right = false)
    (left : List Char) :
    words (left ++ right) = words left ++ words right := by
  induction left with
  | nil => rfl
  | cons head tail inductionHypothesis =>
      rw [List.cons_append]
      by_cases blank : isBlank head = true
      · rw [words_cons_blank blank, words_cons_blank blank,
          inductionHypothesis]
      · by_cases starts : startsWord tail = true
        · have startsWhole : startsWord (tail ++ right) = true := by
            cases tail with
            | nil => cases starts
            | cons next rest => exact starts
          obtain ⟨word, others, parts⟩ :=
            List.exists_cons_of_ne_nil (words_ne_nil_of_startsWord starts)
          rw [words_cons_of_startsWord blank startsWhole,
            words_cons_of_startsWord blank starts, inductionHypothesis,
            parts]
          rfl
        · have pauseWhole : ¬ startsWord (tail ++ right) = true := by
            cases tail with
            | nil => simp [pause]
            | cons next rest => exact starts
          rw [words_cons_of_pause blank pauseWhole,
            words_cons_of_pause blank starts, inductionHypothesis]
          rfl

theorem words_of_solid {word : List Char}
    (filled : word ≠ []) (solid : Solid word) : words word = [word] := by
  induction word with
  | nil => exact absurd rfl filled
  | cons head tail inductionHypothesis =>
      have headSolid : ¬ isBlank head = true := by
        simp [solid head List.mem_cons_self]
      by_cases alone : tail = []
      · subst alone
        rw [words_cons_of_pause headSolid (by decide)]
        rfl
      · have tailSolid : Solid tail := fun c member =>
          solid c (List.mem_cons_of_mem head member)
        have starts : startsWord tail = true := by
          obtain ⟨next, rest, rfl⟩ := List.exists_cons_of_ne_nil alone
          simp [startsWord, tailSolid next List.mem_cons_self]
        rw [words_cons_of_startsWord headSolid starts,
          inductionHypothesis alone tailSolid]
        rfl

/-! ## The words are the one parting -/

theorem Parted.words_eq
    {chars : List Char} {parts : List (List Char)}
    (parted : Parted chars parts) : words chars = parts := by
  induction parted with
  | blanks blank => exact words_of_allBlank blank
  | word blank filled solid pause _ inductionHypothesis =>
      rw [words_append_of_allBlank blank, words_append_of_pause pause,
        words_of_solid filled solid, inductionHypothesis]
      rfl

theorem Parted.cons_blank
    {head : Char} {tail : List Char} {parts : List (List Char)}
    (blank : isBlank head = true) (parted : Parted tail parts) :
    Parted (head :: tail) parts := by
  cases parted with
  | blanks others =>
      apply Parted.blanks
      exact List.forall_mem_cons.mpr ⟨blank, others⟩
  | @word before _ _ _ others filled solid pause later =>
      have longer : AllBlank (head :: before) :=
        List.forall_mem_cons.mpr ⟨blank, others⟩
      exact Parted.word longer filled solid pause later

/-- A character in front of a word that goes on belongs to it. -/
theorem Parted.cons_solid
    {head : Char} {tail word : List Char} {others : List (List Char)}
    (headSolid : isBlank head = false) (starts : startsWord tail = true)
    (parted : Parted tail (word :: others)) :
    Parted (head :: tail) ((head :: word) :: others) := by
  cases parted with
  | @word before _ after _ blank filled solid pause later =>
      have nothing : before = [] := by
        cases before with
        | nil => rfl
        | cons first rest =>
            have firstBlank := blank first List.mem_cons_self
            simp [startsWord, firstBlank] at starts
      subst nothing
      have longer : Solid (head :: word) :=
        List.forall_mem_cons.mpr ⟨headSolid, solid⟩
      exact Parted.word blank (List.cons_ne_nil head word) longer pause later

theorem parted_words (chars : List Char) : Parted chars (words chars) := by
  induction chars with
  | nil =>
      apply Parted.blanks
      intro c member
      cases member
  | cons head tail inductionHypothesis =>
      by_cases blank : isBlank head = true
      · rw [words_cons_blank blank]
        exact inductionHypothesis.cons_blank blank
      · have headSolid : isBlank head = false := by simpa using blank
        by_cases starts : startsWord tail = true
        · obtain ⟨word, others, parts⟩ :=
            List.exists_cons_of_ne_nil (words_ne_nil_of_startsWord starts)
          rw [parts] at inductionHypothesis
          rw [words_cons_of_startsWord blank starts, parts]
          exact inductionHypothesis.cons_solid headSolid starts
        · rw [words_cons_of_pause blank starts]
          have nothing : AllBlank [] := fun c member => by cases member
          have single : Solid [head] := by
            simpa [Solid] using headSolid
          have pause : startsWord tail = false := by simpa using starts
          exact Parted.word nothing (List.cons_ne_nil head []) single pause
            inductionHypothesis

theorem parted_iff {chars : List Char} {parts : List (List Char)} :
    Parted chars parts ↔ words chars = parts := by
  constructor
  · exact Parted.words_eq
  · intro same
    rw [← same]
    exact parted_words chars

theorem Parted.filled
    {chars : List Char} {parts : List (List Char)}
    (parted : Parted chars parts) : ∀ word ∈ parts, word ≠ [] := by
  rw [← parted.words_eq]
  exact ne_nil_of_mem_words chars

theorem Parted.solid
    {chars : List Char} {parts : List (List Char)}
    (parted : Parted chars parts) : ∀ word ∈ parts, Solid word := by
  induction parted with
  | blanks _ => simp
  | word _ _ solid _ _ inductionHypothesis =>
      exact List.forall_mem_cons.mpr ⟨solid, inductionHypothesis⟩

/-! ## Dropping characters word by word -/

/-- What drops no blank leaves of a text what it leaves of its words. -/
theorem words_filter
    {keep : Char → Bool} (keeps : ∀ c, isBlank c = true → keep c = true)
    (chars : List Char) :
    words (chars.filter keep) =
      (words chars).flatMap fun word => words (word.filter keep) := by
  have parted := parted_words chars
  generalize words chars = parts at parted
  induction parted with
  | blanks blank => exact words_of_allBlank (blank.filter keep)
  | @word before word after _ blank _ _ pause _ inductionHypothesis =>
      -- a blank behind the word is kept, so the word still ends there
      have pauseKept : startsWord (after.filter keep) = false := by
        cases after with
        | nil => rfl
        | cons next rest =>
            have nextBlank : isBlank next = true := by
              simpa [startsWord] using pause
            simp [keeps next nextBlank, startsWord, nextBlank]
      rw [List.filter_append, List.filter_append,
        words_append_of_allBlank (blank.filter keep),
        words_append_of_pause pauseKept, inductionHypothesis,
        List.flatMap_cons]

end UtilityCss.Text

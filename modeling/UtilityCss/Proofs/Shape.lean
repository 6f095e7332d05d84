import UtilityCss.Proofs.Pattern.Reading
import UtilityCss.Proofs.Text.LowerCase
import UtilityCss.Shape

/-!
# Recognized tokens

The five shapes are patterns that can be read in many ways.  A token without a
line feed is recognized by looking once: at the whole token, at its beginning, at
its brackets, or at the two parts around its last hyphen.  The part behind the
hyphen cannot hold a hyphen itself, so no other way of reading the token counts.
-/

namespace UtilityCss.Shape

open Text Pattern

/-! ## Parts of tokens -/

/-- An optional hyphen, a letter, and then letters and hyphens. -/
def IsName (chars : List Char) : Prop :=
  ∃ sign letter others, chars = sign ++ letter :: others ∧
    (sign = [] ∨ sign = ['-']) ∧ isLetter letter = true ∧
      ∀ c ∈ others, isLetter c = true ∨ c = '-'

def IsDigits (chars : List Char) : Prop :=
  chars ≠ [] ∧ ∀ c ∈ chars, isDecimalDigit c = true

def IsNumber (chars : List Char) : Prop :=
  IsDigits chars ∨
    ∃ whole part, chars = whole ++ '.' :: part ∧ IsDigits whole ∧ IsDigits part

def IsSize (chars : List Char) : Prop :=
  IsNumber chars ∨
    (∃ word ∈ ["px", "xs", "sm", "md", "lg", "xl"], Spells chars word) ∨
      ∃ digit letters, chars = digit :: letters ∧ '2' ≤ digit ∧ digit ≤ '9' ∧
        Spells letters "xl"

/-- Nothing, or a slash with digits. -/
def IsFraction (chars : List Char) : Prop :=
  chars = [] ∨ ∃ digits, chars = '/' :: digits ∧ IsDigits digits

def IsKeyword (chars : List Char) : Prop :=
  ∃ word ∈ suffixKeywords, Spells chars word

/-- What is described, and a fraction if there is one. -/
def IsDivided (whole : List Char → Prop) (chars : List Char) : Prop :=
  ∃ front divisor, chars = front ++ divisor ∧ whole front ∧ IsFraction divisor

def IsColour (chars : List Char) : Prop :=
  ∃ digits, chars = '#' :: digits ∧ 3 ≤ digits.length ∧ digits.length ≤ 8 ∧
    ∀ c ∈ digits, isHexDigit c = true

def IsMeasure (chars : List Char) : Prop :=
  ∃ amount letters, chars = amount ++ letters ∧ IsNumber amount ∧
    ∃ unit ∈ units, Spells letters unit

/-- What may stand behind the last hyphen of a token. -/
inductive IsEnding (chars : List Char) : Prop
  | size (sized : IsDivided IsSize chars)
  | keyword (worded : IsDivided IsKeyword chars)
  | colour (coloured : IsColour chars)
  | measure (measured : IsMeasure chars)

/-- A token of one of the forms by which utility classes are known. -/
inductive Recognized (token : List Char) : Prop
  | keyword {word : String} (listed : word ∈ keywordUtilities)
      (lowered : lowerCase token = word.toList)
  | variant {letters others : List Char} {word : String}
      (shape : token = letters ++ ':' :: others) (listed : word ∈ variantNames)
      (spelled : Spells letters word)
  | bracketed {front value : List Char}
      (shape : token = front ++ '[' :: (value ++ [']'])) (named : IsName front)
      (filled : value ≠ [])
  | parted {front back : List Char} (shape : token = front ++ '-' :: back)
      (last : '-' ∉ back) (named : IsName front) (ends : IsEnding back)

/-! ## Reading the parts -/

section Reading

variable {front back : List Char}

theorem reads_name : name.Reads front back ↔ IsName front := by
  constructor
  · rintro ⟨sign, rest, rfl, signed, _, others, rfl, ⟨letter, isLetter, rfl⟩,
      all⟩
    refine ⟨sign, letter, others, rfl, ?_, isLetter, fun c member => ?_⟩
    · rcases signed with ⟨c, same, rfl⟩ | rfl
      · exact Or.inr (congrArg (fun c => [c]) (beq_iff_eq.mp same))
      · exact Or.inl rfl
    · simpa using all c member
  · rintro ⟨sign, letter, others, rfl, signed, isLetter, all⟩
    refine ⟨sign, letter :: others, rfl, ?_, [letter], others, rfl,
      ⟨letter, isLetter, rfl⟩, fun c member => ?_⟩
    · rcases signed with rfl | rfl
      · exact Or.inr rfl
      · exact Or.inl ⟨'-', rfl, rfl⟩
    · simpa using all c member

theorem reads_one_eq {expected : Char} :
    (Pattern.one (· == expected)).Reads front back ↔ front = [expected] := by
  constructor
  · rintro ⟨c, same, rfl⟩
    rw [beq_iff_eq.mp same]
  · rintro rfl
    exact ⟨expected, beq_self_eq_true expected, rfl⟩

theorem reads_digits : digits.Reads front back ↔ IsDigits front :=
  reads_atLeastOne

theorem reads_number : number.Reads front back ↔ IsNumber front := by
  constructor
  · rintro ⟨whole, rest, rfl, isWhole, ⟨_, part, rfl, point, isPart⟩ | rfl⟩
    · rw [reads_one_eq.mp point]
      exact Or.inr ⟨whole, part, rfl, reads_digits.mp isWhole,
        reads_digits.mp isPart⟩
    · rw [List.append_nil]
      exact Or.inl (reads_digits.mp isWhole)
  · rintro (isWhole | ⟨whole, part, rfl, isWhole, isPart⟩)
    · exact ⟨front, [], (List.append_nil front).symm,
        reads_digits.mpr isWhole, Or.inr rfl⟩
    · exact ⟨whole, '.' :: part, rfl, reads_digits.mpr isWhole,
        Or.inl ⟨['.'], part, rfl, reads_one_eq.mpr rfl,
          reads_digits.mpr isPart⟩⟩

theorem reads_fraction : fraction.Reads front back ↔ IsFraction front := by
  constructor
  · rintro (⟨_, rest, rfl, slash, isRest⟩ | rfl)
    · rw [reads_one_eq.mp slash]
      exact Or.inr ⟨rest, rfl, reads_digits.mp isRest⟩
    · exact Or.inl rfl
  · rintro (rfl | ⟨rest, rfl, isRest⟩)
    · exact Or.inr rfl
    · exact Or.inl ⟨['/'], rest, rfl, reads_one_eq.mpr rfl,
        reads_digits.mpr isRest⟩

theorem reads_size : size.Reads front back ↔ IsSize front := by
  have scaled :
      (Pattern.seq (Pattern.one fun c => '2' ≤ c && c ≤ '9')
          (Pattern.literal "xl")).Reads front back ↔
        ∃ digit letters, front = digit :: letters ∧ '2' ≤ digit ∧
          digit ≤ '9' ∧ Spells letters "xl" := by
    constructor
    · rintro ⟨_, letters, rfl, ⟨digit, within, rfl⟩, spelled⟩
      obtain ⟨low, high⟩ : '2' ≤ digit ∧ digit ≤ '9' := by
        simpa using within
      exact ⟨digit, letters, rfl, low, high, reads_literal.mp spelled⟩
    · rintro ⟨digit, letters, rfl, low, high, spelled⟩
      exact ⟨[digit], letters, rfl, ⟨digit, by simp [low, high], rfl⟩,
        reads_literal.mpr spelled⟩
  rw [size, Reads, Reads, reads_number, reads_literals, scaled]
  rfl

/-- The end of a token leaves nothing, or a final line feed. -/
theorem reads_seq_ending {pattern : Pattern} :
    (Pattern.seq pattern Pattern.ending).Reads front back ↔
      pattern.Reads front back ∧ (back = [] ∨ back = ['\n']) := by
  constructor
  · rintro ⟨left, right, rfl, reads, rfl, ends⟩
    rw [List.append_nil]
    exact ⟨reads, ends⟩
  · rintro ⟨reads, ends⟩
    exact ⟨front, [], (List.append_nil front).symm, reads, rfl, ends⟩

theorem reads_divided {pattern : Pattern} {Whole : List Char → Prop}
    (reads : ∀ {front back}, pattern.Reads front back ↔ Whole front) :
    (Pattern.seq pattern (Pattern.seq fraction Pattern.ending)).Reads
        front back ↔
      IsDivided Whole front ∧ (back = [] ∨ back = ['\n']) := by
  constructor
  · rintro ⟨left, right, rfl, isWhole, rest⟩
    obtain ⟨divided, ends⟩ := reads_seq_ending.mp rest
    exact ⟨⟨left, right, rfl, reads.mp isWhole, reads_fraction.mp divided⟩,
      ends⟩
  · rintro ⟨⟨left, right, rfl, isWhole, divided⟩, ends⟩
    exact ⟨left, right, rfl, reads.mpr isWhole,
      reads_seq_ending.mpr ⟨reads_fraction.mpr divided, ends⟩⟩

theorem reads_colour :
    (Pattern.seq (Pattern.one (· == '#'))
        (Pattern.seq (Pattern.times isHexDigit 3)
          (Pattern.upTo isHexDigit 5))).Reads front back ↔
      IsColour front := by
  constructor
  · rintro ⟨_, _, rfl, sign, first, others, rfl, readsFirst, readsOthers⟩
    rw [reads_one_eq.mp sign]
    obtain ⟨three, hexFirst⟩ := reads_times.mp readsFirst
    obtain ⟨few, hexOthers⟩ := reads_upTo.mp readsOthers
    refine ⟨first ++ others, rfl, ?_, ?_, fun c member => ?_⟩
    · rw [List.length_append]
      omega
    · rw [List.length_append]
      omega
    · rcases List.mem_append.mp member with early | late
      · exact hexFirst c early
      · exact hexOthers c late
  · rintro ⟨digits, rfl, many, few, hex⟩
    have three : (digits.take 3).length = 3 := by
      rw [List.length_take]
      omega
    have others : (digits.drop 3).length ≤ 5 := by
      rw [List.length_drop]
      omega
    refine ⟨['#'], digits, rfl, reads_one_eq.mpr rfl, digits.take 3,
      digits.drop 3, (List.take_append_drop 3 digits).symm, ?_, ?_⟩
    · exact reads_times.mpr
        ⟨three, fun c member => hex c (List.mem_of_mem_take member)⟩
    · exact reads_upTo.mpr
        ⟨others, fun c member => hex c (List.mem_of_mem_drop member)⟩

theorem reads_measure :
    (Pattern.seq number (Pattern.literals units)).Reads front back ↔
      IsMeasure front := by
  constructor
  · rintro ⟨amount, letters, rfl, isAmount, isUnit⟩
    exact ⟨amount, letters, rfl, reads_number.mp isAmount,
      reads_literals.mp isUnit⟩
  · rintro ⟨amount, letters, rfl, isAmount, isUnit⟩
    exact ⟨amount, letters, rfl, reads_number.mpr isAmount,
      reads_literals.mpr isUnit⟩

end Reading

/-! ## Endings have no hyphen -/

/-- The patterns of the four endings. -/
def endings : List Pattern :=
  [Pattern.seq size (Pattern.seq fraction Pattern.ending),
    Pattern.seq (Pattern.literals suffixKeywords)
      (Pattern.seq fraction Pattern.ending),
    Pattern.seq (Pattern.one (· == '#'))
      (Pattern.seq (Pattern.times isHexDigit 3) (Pattern.upTo isHexDigit 5)),
    Pattern.seq number (Pattern.literals units)]

theorem IsEnding.exists_reads {chars : List Char} (ends : IsEnding chars) :
    ∃ pattern ∈ endings, pattern.Reads chars [] := by
  have closed : ([] : List Char) = [] ∨ ([] : List Char) = ['\n'] :=
    Or.inl rfl
  cases ends with
  | size sized =>
      exact ⟨_, by simp [endings],
        (reads_divided reads_size).mpr ⟨sized, closed⟩⟩
  | keyword worded =>
      exact ⟨_, by simp [endings],
        (reads_divided reads_literals).mpr ⟨worded, closed⟩⟩
  | colour coloured =>
      exact ⟨_, by simp [endings], reads_colour.mpr coloured⟩
  | measure measured =>
      exact ⟨_, by simp [endings], reads_measure.mpr measured⟩

theorem IsEnding.hyphen_not_mem {chars : List Char} (ends : IsEnding chars) :
    '-' ∉ chars := by
  have avoids : ∀ pattern ∈ endings, pattern.avoids '-' = true := by
    decide +kernel
  obtain ⟨pattern, listed, reads⟩ := ends.exists_reads
  exact not_mem_of_reads (avoids pattern listed) reads

/-! ## The shapes of a token -/

section Shapes

variable {token : List Char} (unbroken : '\n' ∉ token)

include unbroken

/-- A token that ends with what the pattern describes ends there for good. -/
theorem eq_append_of_ends {front back : List Char}
    (shape : token = front ++ back) (ends : back = [] ∨ back = ['\n']) :
    token = front := by
  rcases ends with rfl | rfl
  · rw [shape, List.append_nil]
  · refine absurd ?_ unbroken
    rw [shape]
    exact List.mem_append_right front (List.mem_singleton.mpr rfl)

theorem matchesStart_parted_iff {tail : Pattern} {End : List Char → Prop}
    (reads : ∀ {front back}, tail.Reads front back ↔
      End front ∧ (back = [] ∨ back = ['\n'])) :
    (Pattern.seq name (Pattern.seq hyphen tail)).matchesStart token = true ↔
      ∃ front back, token = front ++ '-' :: back ∧ IsName front ∧
        End back := by
  rw [matchesStart_iff]
  constructor
  · rintro ⟨_, after, shape, front, _, rfl, named, _, back, rfl, sign, rest⟩
    obtain ⟨ends, closed⟩ := reads.mp rest
    have whole := eq_append_of_ends unbroken shape closed
    rw [reads_one_eq.mp sign] at whole
    exact ⟨front, back, whole, reads_name.mp named, ends⟩
  · rintro ⟨front, back, rfl, named, ends⟩
    exact ⟨front ++ '-' :: back, [], (List.append_nil _).symm, front,
      '-' :: back, rfl, reads_name.mpr named, ['-'], back, rfl,
      reads_one_eq.mpr rfl, reads.mpr ⟨ends, Or.inl rfl⟩⟩

/-- The three shapes with a hyphen differ only in what stands behind it. -/
theorem matchesStart_hyphened_iff :
    (scale.matchesStart token = true ∨ remnant.matchesStart token = true ∨
        keyworded.matchesStart token = true) ↔
      ∃ front back, token = front ++ '-' :: back ∧ IsName front ∧
        IsEnding back := by
  have readsLeft : ∀ {front back : List Char},
      (Pattern.seq
          (Pattern.alt
            (Pattern.seq (Pattern.one (· == '#'))
              (Pattern.seq (Pattern.times isHexDigit 3)
                (Pattern.upTo isHexDigit 5)))
            (Pattern.seq number (Pattern.literals units)))
          Pattern.ending).Reads front back ↔
        (IsColour front ∨ IsMeasure front) ∧ (back = [] ∨ back = ['\n']) := by
    intro front back
    rw [reads_seq_ending, Reads, reads_colour, reads_measure]
  have scaled : scale.matchesStart token = true ↔ _ :=
    matchesStart_parted_iff unbroken (reads_divided reads_size)
  have left : remnant.matchesStart token = true ↔ _ :=
    matchesStart_parted_iff unbroken readsLeft
  have worded : keyworded.matchesStart token = true ↔ _ :=
    matchesStart_parted_iff unbroken (reads_divided reads_literals)
  rw [scaled, left, worded]
  constructor
  · rintro (⟨front, back, shape, named, sized⟩ |
      ⟨front, back, shape, named, coloured | measured⟩ |
      ⟨front, back, shape, named, word⟩)
    · exact ⟨front, back, shape, named, IsEnding.size sized⟩
    · exact ⟨front, back, shape, named, IsEnding.colour coloured⟩
    · exact ⟨front, back, shape, named, IsEnding.measure measured⟩
    · exact ⟨front, back, shape, named, IsEnding.keyword word⟩
  · rintro ⟨front, back, shape, named, ends⟩
    cases ends with
    | size sized => exact Or.inl ⟨front, back, shape, named, sized⟩
    | keyword word =>
        exact Or.inr (Or.inr ⟨front, back, shape, named, word⟩)
    | colour coloured =>
        exact Or.inr (Or.inl ⟨front, back, shape, named, Or.inl coloured⟩)
    | measure measured =>
        exact Or.inr (Or.inl ⟨front, back, shape, named, Or.inr measured⟩)

omit unbroken in
/-- A name may end with hyphens, so a hyphen in front of the brackets is part of
it. -/
theorem IsName.append_hyphen {front : List Char} (named : IsName front) :
    IsName (front ++ ['-']) := by
  obtain ⟨sign, letter, others, rfl, signed, isLetter, all⟩ := named
  refine ⟨sign, letter, others ++ ['-'], by simp, signed, isLetter,
    fun c member => ?_⟩
  rcases List.mem_append.mp member with early | late
  · exact all c early
  · exact Or.inr (List.mem_singleton.mp late)

theorem matchesStart_arbitrary_iff :
    arbitrary.matchesStart token = true ↔
      ∃ front value, token = front ++ '[' :: (value ++ [']']) ∧
        IsName front ∧ value ≠ [] := by
  rw [matchesStart_iff]
  constructor
  · rintro ⟨_, after, shape, front, _, rfl, named, between, _, rfl, optional,
      _, _, rfl, opens, value, _, rfl, inside, closes⟩
    obtain ⟨closing, closed⟩ := reads_seq_ending.mp closes
    have whole := eq_append_of_ends unbroken shape closed
    rw [reads_one_eq.mp opens, reads_one_eq.mp closing] at whole
    obtain ⟨filled, _⟩ := reads_atLeastOne.mp inside
    have isName := reads_name.mp named
    rcases reads_optional.mp optional with sign | rfl
    · rw [reads_one_eq.mp sign] at whole
      exact ⟨front ++ ['-'], value, by simp [whole], isName.append_hyphen,
        filled⟩
    · exact ⟨front, value, whole, isName, filled⟩
  · rintro ⟨front, value, rfl, named, filled⟩
    have inside : ∀ c ∈ value, (c != '\n') = true := by
      intro c member
      rw [bne_iff_ne]
      rintro rfl
      exact unbroken (by simp [member])
    refine ⟨front ++ '[' :: (value ++ [']']), [], (List.append_nil _).symm,
      front, '[' :: (value ++ [']']), rfl, reads_name.mpr named, [],
      '[' :: (value ++ [']']), rfl, Or.inr rfl, ['['], value ++ [']'], rfl,
      reads_one_eq.mpr rfl, value, [']'], rfl,
      reads_atLeastOne.mpr ⟨filled, inside⟩, ?_⟩
    exact reads_seq_ending.mpr ⟨reads_one_eq.mpr rfl, Or.inl rfl⟩

end Shapes

theorem matchesStart_variant_iff {token : List Char} :
    variant.matchesStart token = true ↔
      ∃ letters others, token = letters ++ ':' :: others ∧
        ∃ word ∈ variantNames, Spells letters word := by
  have colon : ∀ {chars : List Char}, Spells chars ":" ↔ chars = [':'] :=
    spells_sign rfl (by decide) (by decide)
  rw [matchesStart_iff]
  constructor
  · rintro ⟨_, others, rfl, letters, _, rfl, named, sign⟩
    rw [colon.mp (reads_literal.mp sign)]
    exact ⟨letters, others, by simp, reads_literals.mp named⟩
  · rintro ⟨letters, others, rfl, named⟩
    exact ⟨letters ++ [':'], others, by simp, letters, [':'], rfl,
      reads_literals.mpr named, reads_literal.mpr (colon.mpr rfl)⟩

/-! ## Keywords -/

theorem isBasic_of_keyword :
    ∀ word ∈ keywordUtilities, ∀ c ∈ word.toList, IsBasic c := by
  have basic : (keywordUtilities.all fun word =>
      word.toList.all fun c => decide (IsBasic c)) = true := by
    decide +kernel
  intro word listed c member
  have characters := List.all_eq_true.mp basic word listed
  exact of_decide_eq_true (List.all_eq_true.mp characters c member)

theorem keyword_iff (token : List Char) :
    keywordUtilities.contains (String.ofList (lower token)) = true ↔
      ∃ word ∈ keywordUtilities, lowerCase token = word.toList := by
  rw [List.contains_iff_mem]
  constructor
  · intro listed
    refine ⟨_, listed, ?_⟩
    rw [lowerCase_eq_iff (isBasic_of_keyword _ listed), String.toList_ofList]
  · rintro ⟨word, listed, lowered⟩
    rw [lowerCase_eq_iff (isBasic_of_keyword word listed)] at lowered
    rw [lowered, String.ofList_toList]
    exact listed

/-- A token without a line feed is recognized exactly by its form: what stands
behind its last hyphen decides, unless it is a keyword or starts with a variant or
has a value in brackets. -/
theorem isRecognized_iff_recognized {token : String}
    (unbroken : '\n' ∉ token.toList) :
    isRecognized token = true ↔ Recognized token.toList := by
  have hyphened := matchesStart_hyphened_iff unbroken
  have bracketed := matchesStart_arbitrary_iff unbroken
  rw [isRecognized, Bool.or_eq_true, keyword_iff]
  simp only [patterns, List.any_cons, List.any_nil, Bool.or_eq_true,
    Bool.false_eq_true, or_false]
  constructor
  · rintro (⟨word, listed, lowered⟩ | scaled | variant | bracket | left |
      worded)
    · exact Recognized.keyword listed lowered
    · obtain ⟨front, back, shape, named, ends⟩ :=
        hyphened.mp (Or.inl scaled)
      exact Recognized.parted shape ends.hyphen_not_mem named ends
    · obtain ⟨letters, others, shape, word, listed, spelled⟩ :=
        matchesStart_variant_iff.mp variant
      exact Recognized.variant shape listed spelled
    · obtain ⟨front, value, shape, named, filled⟩ := bracketed.mp bracket
      exact Recognized.bracketed shape named filled
    · obtain ⟨front, back, shape, named, ends⟩ :=
        hyphened.mp (Or.inr (Or.inl left))
      exact Recognized.parted shape ends.hyphen_not_mem named ends
    · obtain ⟨front, back, shape, named, ends⟩ :=
        hyphened.mp (Or.inr (Or.inr worded))
      exact Recognized.parted shape ends.hyphen_not_mem named ends
  · intro recognized
    cases recognized with
    | keyword listed lowered => exact Or.inl ⟨_, listed, lowered⟩
    | variant shape listed spelled =>
        have starts := matchesStart_variant_iff.mpr
          ⟨_, _, shape, _, listed, spelled⟩
        exact Or.inr (Or.inr (Or.inl starts))
    | bracketed shape named filled =>
        have brackets := bracketed.mpr ⟨_, _, shape, named, filled⟩
        exact Or.inr (Or.inr (Or.inr (Or.inl brackets)))
    | parted shape last named ends =>
        rcases hyphened.mpr ⟨_, _, shape, named, ends⟩ with
          scaled | left | worded
        · exact Or.inr (Or.inl scaled)
        · exact Or.inr (Or.inr (Or.inr (Or.inr (Or.inl left))))
        · exact Or.inr (Or.inr (Or.inr (Or.inr (Or.inr worded))))

/-- The last of two hyphens parts the token, and letters and digits of other
scripts count. -/
theorem isRecognized_iff_recognized_half :
    '\n' ∉ "-tran\u017Flate-x--\u0661/\u0662".toList ∧
      Recognized "-tran\u017Flate-x--\u0661/\u0662".toList := by
  have unbroken : '\n' ∉ "-tran\u017Flate-x--\u0661/\u0662".toList := by
    decide
  refine ⟨unbroken, ?_⟩
  apply (isRecognized_iff_recognized unbroken).mp
  decide +kernel

end UtilityCss.Shape

import UtilityCss.Proofs.ClassText.NormalForm
import UtilityCss.Proofs.Guard.Verdict
import UtilityCss.Proofs.Shape
import UtilityCss.Proofs.Warnings

/-!
# Recognized tokens without their brackets

Sanitizing a text deletes the brackets of each word by itself.  Most recognized
tokens have none, and a variant is recognized by what stands in front of its
colon.  What is left of a token with a value in brackets has to be recognized
anew, by the form of the value: colours, measures, sizes and keywords are, and
other values are not.
-/

namespace UtilityCss

open Text ClassText

namespace ClassText

/-! ## Sanitizing word by word -/

/-- What sanitizing makes of a word. -/
def leftOf (word : List Char) : List String :=
  tokens (String.ofList (sanitize word))

theorem leftOf_eq (word : List Char) :
    leftOf word = (words (unbracketed word)).map String.ofList := by
  rw [leftOf, tokens, String.toList_ofList, words_sanitize]

theorem tokens_classesOf (text : String) :
    tokens (classesOf text) = (words text.toList).flatMap leftOf := by
  have keeps : ∀ c, isBlank c = true → (!Guard.isSpecial c) = true := by
    intro c blank
    simp [isSpecial_of_isBlank blank]
  have wordwise :
      words (unbracketed text.toList) =
        (words text.toList).flatMap fun word => words (unbracketed word) :=
    words_filter keeps text.toList
  have left :
      leftOf = fun word => (words (unbracketed word)).map String.ofList :=
    funext leftOf_eq
  rw [classesOf, tokens, String.toList_ofList, words_sanitize, wordwise,
    List.map_flatMap, left]

theorem leftOf_of_solid {word : List Char} (solid : Solid word)
    (remains : unbracketed word ≠ []) :
    leftOf word = [String.ofList (unbracketed word)] := by
  have solidLeft : Solid (unbracketed word) := fun c member =>
    solid c (List.mem_filter.mp member).1
  rw [leftOf_eq, words_of_solid remains solidLeft]
  rfl

/-- No character is a bracket. -/
def Bracketless (chars : List Char) : Prop :=
  ∀ c ∈ chars, Guard.isSpecial c = false

theorem Bracketless.unbracketed_eq {chars : List Char}
    (bracketless : Bracketless chars) : unbracketed chars = chars := by
  apply List.filter_eq_self.mpr
  intro c member
  simp [bracketless c member]

theorem unbracketed_append (left right : List Char) :
    unbracketed (left ++ right) = unbracketed left ++ unbracketed right :=
  List.filter_append left right

theorem bracketless_unbracketed (chars : List Char) :
    Bracketless (unbracketed chars) := by
  intro c member
  simpa using (List.mem_filter.mp member).2

end ClassText

namespace Shape

open Pattern

/-! ## Shapes without brackets -/

section Bracketless

variable {front back token : List Char}

theorem mem_brackets_of_isSpecial {c : Char}
    (special : Guard.isSpecial c = true) : c ∈ Guard.brackets := by
  simpa [Guard.isSpecial, Guard.brackets, or_assoc] using special

theorem bracketless_of_reads
    {pattern : Pattern}
    (avoids : (Guard.brackets.all fun c => pattern.avoids c) = true)
    (reads : pattern.Reads front back) : Bracketless front := by
  intro c member
  by_contra special
  have listed : c ∈ Guard.brackets :=
    mem_brackets_of_isSpecial (by simpa using special)
  exact not_mem_of_reads (List.all_eq_true.mp avoids c listed) reads member

theorem IsName.bracketless (named : IsName front) : Bracketless front :=
  bracketless_of_reads (by decide) ((@reads_name front []).mpr named)

theorem IsEnding.bracketless (ends : IsEnding back) : Bracketless back := by
  have avoids : ∀ pattern ∈ endings,
      (Guard.brackets.all fun c => pattern.avoids c) = true := by
    decide +kernel
  obtain ⟨pattern, listed, reads⟩ := ends.exists_reads
  exact bracketless_of_reads (avoids pattern listed) reads

theorem bracketless_of_spells_variant
    {word : String} (listed : word ∈ variantNames)
    (spelled : Spells front word) : Bracketless front := by
  have reads : (Pattern.literals variantNames).Reads front [] :=
    reads_literals.mpr ⟨word, listed, spelled⟩
  exact bracketless_of_reads (by decide) reads

/-- A bracket is its own lower case, and no keyword has one. -/
theorem bracketless_of_keyword
    (listed : keywordUtilities.contains (String.ofList (lower token)) = true) :
    Bracketless token := by
  have plain :
      ∀ word ∈ keywordUtilities,
        (Guard.brackets.all fun c => !word.toList.contains c) = true := by
    decide +kernel
  have same : (Guard.brackets.all fun c => lowerChar c == [c]) = true := by
    decide
  intro c member
  by_contra special
  have bracket : c ∈ Guard.brackets :=
    mem_brackets_of_isSpecial (by simpa using special)
  have lowered : lowerChar c = [c] :=
    beq_iff_eq.mp (List.all_eq_true.mp same c bracket)
  have kept : c ∈ lower token :=
    List.mem_flatMap.mpr ⟨c, member, by simp [lowered]⟩
  have absent :=
    List.all_eq_true.mp (plain _ (List.contains_iff_mem.mp listed)) c bracket
  simp [kept] at absent

end Bracketless

/-! ## Forms of recognized tokens -/

section Forms

variable {token : List Char} (unbroken : '\n' ∉ token)

include unbroken

/-- The four forms of a recognized token, of which only one has brackets that
matter. -/
theorem isRecognized_iff_forms :
    isRecognized (String.ofList token) = true ↔
      keywordUtilities.contains (String.ofList (lower token)) = true ∨
        (∃ letters others, token = letters ++ ':' :: others ∧
          ∃ word ∈ variantNames, Spells letters word) ∨
        (∃ front value, token = front ++ '[' :: (value ++ [']']) ∧
          IsName front ∧ value ≠ []) ∨
        ∃ front back, token = front ++ '-' :: back ∧ IsName front ∧
          IsEnding back := by
  rw [← matchesStart_variant_iff, ← matchesStart_arbitrary_iff unbroken,
    ← matchesStart_hyphened_iff unbroken, isRecognized,
    String.toList_ofList, Bool.or_eq_true]
  simp only [patterns, List.any_cons, List.any_nil, Bool.or_eq_true,
    Bool.false_eq_true, or_false]
  tauto

end Forms

/-- A token with a value in square brackets that leaves no known form behind. -/
inductive Spoilt (token : List Char) : Prop
  | bracketed {front value : List Char}
      (shape : token = front ++ '[' :: (value ++ [']']))
      (named : IsName front) (filled : value ≠ [])
      (lost :
        isRecognized (String.ofList (front ++ unbracketed value)) = false)

theorem unbracketed_bracketed {front : List Char} (named : IsName front)
    (value : List Char) :
    unbracketed (front ++ '[' :: (value ++ [']'])) =
      front ++ unbracketed value := by
  have opening : unbracketed ['['] = [] := by decide
  have closing : unbracketed [']'] = [] := by decide
  calc
    unbracketed (front ++ '[' :: (value ++ [']'])) =
        unbracketed front ++
          (unbracketed ['['] ++ (unbracketed value ++ unbracketed [']'])) := by
      rw [← unbracketed_append, ← unbracketed_append, ← unbracketed_append]
      rfl
    _ = front ++ unbracketed value := by
      rw [named.bracketless.unbracketed_eq, opening, closing,
        List.append_nil, List.nil_append]

theorem bracketless_hyphened {front back : List Char}
    (named : IsName front) (ends : IsEnding back) :
    Bracketless (front ++ '-' :: back) := by
  intro c member
  rcases List.mem_append.mp member with early | late
  · exact named.bracketless c early
  · rcases List.mem_cons.mp late with rfl | later
    · decide
    · exact ends.bracketless c later

theorem feed_not_mem_unbracketed {chars : List Char}
    (unbroken : '\n' ∉ chars) : '\n' ∉ unbracketed chars :=
  fun member => unbroken (List.mem_filter.mp member).1

/-- A recognized token stays recognized without its brackets, unless they hold a
value that leaves no known form behind. -/
theorem isRecognized_unbracketed_iff {token : List Char}
    (unbroken : '\n' ∉ token)
    (recognized : isRecognized (String.ofList token) = true) :
    isRecognized (String.ofList (unbracketed token)) = true ↔
      ¬ Spoilt token := by
  constructor
  · intro kept spoilt
    cases spoilt with
    | @bracketed front value shape named _ lost =>
        rw [shape, unbracketed_bracketed named, lost] at kept
        cases kept
  · intro sound
    rcases (isRecognized_iff_forms unbroken).mp recognized with
      keyword | variant | bracketed | hyphened
    · rw [(bracketless_of_keyword keyword).unbracketed_eq]
      exact recognized
    · obtain ⟨letters, others, shape, word, listed, spelled⟩ := variant
      have plain := bracketless_of_spells_variant listed spelled
      have colon : unbracketed [':'] = [':'] := by decide
      have left :
          unbracketed token = letters ++ ':' :: unbracketed others := by
        rw [shape, unbracketed_append, plain.unbracketed_eq,
          ← List.singleton_append, unbracketed_append, colon]
        rfl
      apply (isRecognized_iff_forms (feed_not_mem_unbracketed unbroken)).mpr
      exact Or.inr (Or.inl ⟨letters, _, left, word, listed, spelled⟩)
    · obtain ⟨front, value, shape, named, filled⟩ := bracketed
      by_contra unknown
      rw [shape, unbracketed_bracketed named] at unknown
      exact sound
        (Spoilt.bracketed shape named filled (by simpa using unknown))
    · obtain ⟨front, back, shape, named, ends⟩ := hyphened
      have plain : Bracketless token :=
        shape ▸ bracketless_hyphened named ends
      rw [plain.unbracketed_eq]
      exact recognized

/-! ## Values that leave a known form -/

/-- What stands behind the last hyphen is determined by the whole. -/
theorem eq_of_last_hyphen {stem value front back : List Char}
    (same : stem ++ '-' :: value = front ++ '-' :: back)
    (unhyphened : '-' ∉ value) (last : '-' ∉ back) : value = back := by
  rcases List.append_eq_append_iff.mp same with
    ⟨between, _, rest⟩ | ⟨between, _, rest⟩
  · cases between with
    | nil => exact (List.cons.inj rest).2
    | cons first others =>
        have whole := (List.cons.inj rest).2
        exact absurd (by simp [whole]) unhyphened
  · cases between with
    | nil => exact (List.cons.inj rest).2.symm
    | cons first others =>
        have whole := (List.cons.inj rest).2
        exact absurd (by simp [whole]) last

theorem IsName.not_mem {front : List Char} (named : IsName front) {c : Char}
    (avoids : name.avoids c = true) : c ∉ front :=
  not_mem_of_reads avoids ((@reads_name front []).mpr named)

section Values

variable {stem value : List Char} (named : IsName stem)
variable (unbroken : '\n' ∉ value) (unhyphened : '-' ∉ value)
variable (uncoloned : ':' ∉ value)

include named unbroken unhyphened uncoloned

/-- Behind a name and a hyphen only endings are recognized. -/
theorem isRecognized_iff_ending (bracketless : Bracketless value) :
    isRecognized (String.ofList (stem ++ '-' :: value)) = true ↔
      keywordUtilities.contains
          (String.ofList (lower (stem ++ '-' :: value))) = true ∨
        IsEnding value := by
  have feedless : '\n' ∉ stem ++ '-' :: value := by
    have stemless : '\n' ∉ stem := named.not_mem (by decide)
    simp [stemless, unbroken]
  have colonless : ':' ∉ stem ++ '-' :: value := by
    have stemless : ':' ∉ stem := named.not_mem (by decide)
    simp [stemless, uncoloned]
  have openless : '[' ∉ stem ++ '-' :: value := by
    have stemless : '[' ∉ stem := named.not_mem (by decide)
    have valueless : '[' ∉ value := fun member =>
      absurd (bracketless '[' member) (by decide)
    simp [stemless, valueless]
  rw [isRecognized_iff_forms feedless]
  constructor
  · intro forms
    rcases forms with keyword | variant | bracketed | hyphened
    · exact Or.inl keyword
    · obtain ⟨letters, others, shape, _⟩ := variant
      exact absurd (by simp [shape]) colonless
    · obtain ⟨front, inner, shape, _⟩ := bracketed
      exact absurd (by simp [shape]) openless
    · obtain ⟨front, ending, shape, _, ends⟩ := hyphened
      have same :=
        eq_of_last_hyphen shape unhyphened ends.hyphen_not_mem
      exact Or.inr (same ▸ ends)
  · intro known
    rcases known with keyword | ends
    · exact Or.inl keyword
    · exact Or.inr (Or.inr (Or.inr ⟨stem, value, rfl, named, ends⟩))

/-- A value that stands alone in the brackets is kept exactly if it is an ending
by itself, or makes a keyword of the whole. -/
theorem spoilt_iff_of_value (filled : value ≠ []) :
    Spoilt (stem ++ '-' :: '[' :: (value ++ [']'])) ↔
      ¬ (keywordUtilities.contains
            (String.ofList (lower (stem ++ '-' :: unbracketed value))) = true ∨
          IsEnding (unbracketed value)) := by
  have kept : ∀ {c : Char}, c ∉ value → c ∉ unbracketed value :=
    fun absent member => absent (List.mem_filter.mp member).1
  have known := isRecognized_iff_ending named (kept unbroken)
    (kept unhyphened) (kept uncoloned) (bracketless_unbracketed value)
  have shape :
      stem ++ '-' :: '[' :: (value ++ [']']) =
        (stem ++ ['-']) ++ '[' :: (value ++ [']']) := by
    simp
  have left :
      (stem ++ ['-']) ++ unbracketed value = stem ++ '-' :: unbracketed value := by
    simp
  rw [← known, Bool.not_eq_true]
  constructor
  · intro spoilt
    cases spoilt with
    | @bracketed front inner same isName _ lost =>
        have whole := unbracketed_bracketed isName inner
        rw [← same, shape, unbracketed_bracketed named.append_hyphen,
          left] at whole
        rw [whole]
        exact lost
  · intro lost
    exact Spoilt.bracketed shape named.append_hyphen filled
      (left.symm ▸ lost)

end Values

theorem solid_of_mem_words {chars word : List Char}
    (member : word ∈ words chars) : Solid word :=
  (parted_words chars).solid word member

theorem feed_not_mem_of_solid {word : List Char} (solid : Solid word) :
    '\n' ∉ word :=
  fun member => absurd (solid '\n' member) (by decide)

/-- A recognized token does not consist of brackets only. -/
theorem unbracketed_ne_nil {token : List Char} (unbroken : '\n' ∉ token)
    (recognized : isRecognized (String.ofList token) = true) :
    unbracketed token ≠ [] := by
  have keeps : ∀ {c : Char}, c ∈ token → Guard.isSpecial c = false →
      unbracketed token ≠ [] := by
    intro c member plain nothing
    have kept : c ∈ unbracketed token :=
      List.mem_filter.mpr ⟨member, by simp [plain]⟩
    rw [nothing] at kept
    cases kept
  rcases (isRecognized_iff_forms unbroken).mp recognized with
    keyword | variant | bracketed | hyphened
  · have plain := bracketless_of_keyword keyword
    have filled : ∀ word ∈ keywordUtilities, word ≠ "" := by decide
    rw [plain.unbracketed_eq]
    intro nothing
    subst nothing
    exact filled _ (List.contains_iff_mem.mp keyword) rfl
  · obtain ⟨letters, others, shape, _⟩ := variant
    exact @keeps ':' (by simp [shape]) (by decide)
  · obtain ⟨front, value, shape, named, _⟩ := bracketed
    obtain ⟨sign, letter, others, parts, _⟩ := id named
    have member : letter ∈ front := by simp [parts]
    exact keeps (by simp [shape, member]) (named.bracketless letter member)
  · obtain ⟨front, back, shape, _⟩ := hyphened
    exact @keeps '-' (by simp [shape]) (by decide)

open Warnings

/-- The warnings on an accepted text advise on what is left of its words, word
by word.  A recognized word leaves one class, which is suspected exactly if the
word is spoilt: if a value in its brackets leaves no known form behind. -/
theorem suspects_spoilt_only (limit : Int) (text : String)
    (passed : Guard.check limit text.toList = Except.ok ()) :
    tokens (classesOf text) = (words text.toList).flatMap leftOf ∧
      (∀ styles,
        AdvisesOn
          ((words text.toList).flatMap fun word => unrecognized (leftOf word))
          ((Conversion.alone limit styles text).warnings.getD [])) ∧
      ∀ word ∈ words text.toList,
        isRecognized (String.ofList word) = true →
          leftOf word = [String.ofList (unbracketed word)] ∧
            (unrecognized (leftOf word) = [] ↔ ¬ Spoilt word) ∧
            ∀ stem value,
              word = stem ++ '-' :: '[' :: (value ++ [']']) →
                IsName stem → value ≠ [] → '-' ∉ value → ':' ∉ value →
                  (Spoilt word ↔
                    ¬ (keywordUtilities.contains
                          (String.ofList
                            (lower (stem ++ '-' :: unbracketed value))) =
                        true ∨
                      IsEnding (unbracketed value))) := by
  refine ⟨tokens_classesOf text, ?_, ?_⟩
  · intro styles
    apply (advisesOn_alone passed styles).congr
    have wordwise :
        ((words text.toList).flatMap fun word => unrecognized (leftOf word)) =
          unrecognized (tokens (classesOf text)) := by
      rw [tokens_classesOf]
      exact List.filter_flatMap.symm
    rw [wordwise, unrecognized_unrecognized]
  · intro word member recognized
    have solid := solid_of_mem_words member
    have unbroken := feed_not_mem_of_solid solid
    have left :=
      leftOf_of_solid solid (unbracketed_ne_nil unbroken recognized)
    refine ⟨left, ?_, ?_⟩
    · rw [left, ← isRecognized_unbracketed_iff unbroken recognized]
      simp [unrecognized]
    · intro stem value shape named filled unhyphened uncoloned
      have feedless : '\n' ∉ value := fun inside =>
        unbroken (by simp [shape, inside])
      rw [shape]
      exact spoilt_iff_of_value named feedless unhyphened uncoloned filled

/-- A colour in brackets is a colour without them. -/
theorem suspects_spoilt_only_colour :
    Guard.check 10000 "p-4 bg-[#1da1f2]".toList = Except.ok () ∧
      "bg-[#1da1f2]".toList ∈ words "p-4 bg-[#1da1f2]".toList ∧
      isRecognized "bg-[#1da1f2]" = true ∧
      leftOf "bg-[#1da1f2]".toList = ["bg-#1da1f2"] ∧
      unrecognized ["bg-#1da1f2"] = [] := by
  have passed :
      Guard.check 10000 "p-4 bg-[#1da1f2]".toList = Except.ok () := by
    rfl
  have member :
      "bg-[#1da1f2]".toList ∈ words "p-4 bg-[#1da1f2]".toList := by
    decide +kernel
  have recognized : isRecognized "bg-[#1da1f2]" = true := by
    decide +kernel
  have named : IsName "bg".toList :=
    ⟨[], 'b', ['g'], rfl, Or.inl rfl, by decide,
      List.forall_mem_singleton.mpr (by decide)⟩
  have hex : ∀ c ∈ "1da1f2".toList, isHexDigit c = true :=
    List.all_eq_true.mp (by decide)
  have coloured : IsEnding (unbracketed "#1da1f2".toList) :=
    IsEnding.colour ⟨"1da1f2".toList, by decide, by decide, by decide, hex⟩
  obtain ⟨_, _, each⟩ :=
    suspects_spoilt_only 10000 "p-4 bg-[#1da1f2]" passed
  obtain ⟨left, sound, values⟩ := each _ member recognized
  have spoilt :=
    values "bg".toList "#1da1f2".toList (by decide) named (by decide)
      (by decide) (by decide)
  have single : leftOf "bg-[#1da1f2]".toList = ["bg-#1da1f2"] := by
    rw [left]
    decide +kernel
  refine ⟨passed, member, recognized, single, ?_⟩
  rw [← single, sound, spoilt]
  exact not_not.mpr (Or.inr coloured)

/-- A computed width is an accepted value in brackets.  Without them its percent
sign stands in the middle of a name, and the warnings list it. -/
theorem suspects_computed_width :
    Guard.check 10000 "w-[calc(100%-1rem)]".toList = Except.ok () ∧
      isRecognized "w-[calc(100%-1rem)]" = true ∧
      leftOf "w-[calc(100%-1rem)]".toList = ["w-calc100%-1rem"] ∧
      (Conversion.alone 10000 (fun _ => ⟨[("width", "50%")]⟩)
            "w-[calc(100%-1rem)]").warnings =
        some ["Potentially invalid classes: w-calc100%-1rem"] ∧
      ¬ ∀ (limit : Int) (text : String),
        Guard.check limit text.toList = Except.ok () →
          ∀ word ∈ words text.toList,
            isRecognized (String.ofList word) = true →
              ∀ token ∈ leftOf word, isRecognized token = true := by
  have passed :
      Guard.check 10000 "w-[calc(100%-1rem)]".toList = Except.ok () := by
    rfl
  have recognized : isRecognized "w-[calc(100%-1rem)]" = true := by
    decide +kernel
  have left :
      leftOf "w-[calc(100%-1rem)]".toList = ["w-calc100%-1rem"] := by
    decide +kernel
  refine ⟨passed, recognized, left, by decide +kernel, fun always => ?_⟩
  have kept := always 10000 "w-[calc(100%-1rem)]" passed
    "w-[calc(100%-1rem)]".toList (by decide +kernel) recognized
    "w-calc100%-1rem" (left ▸ List.mem_cons_self)
  exact absurd kept (by decide +kernel)

end Shape

end UtilityCss

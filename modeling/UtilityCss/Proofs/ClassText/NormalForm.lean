import Mathlib.Data.List.Chain
import Mathlib.Data.List.DropRight
import UtilityCss.Proofs.Guard
import UtilityCss.Proofs.Text.Parted

/-!
# The normal form of a class text

Dropping brackets can join words, empty them, and leave blanks at the ends of a
text.  Afterwards the words that are left stand one space apart, so sanitizing a
second time changes nothing.  Everything that is decided about a text can be
told from its key: the blanks that a key lacks belong to no word, are no
brackets, and are part of no dangerous pattern.
-/

namespace UtilityCss

namespace Text

/-- No blank stands next to another. -/
def Spaced (chars : List Char) : Prop :=
  chars.IsChain fun c next => isBlank c = false ∨ isBlank next = false

/-! ## Words one space apart -/

theorem spaced_of_solid {chars : List Char} (solid : Solid chars) :
    Spaced chars := by
  have apart :
      chars.Pairwise fun c next =>
        isBlank c = false ∨ isBlank next = false := by
    apply List.pairwise_of_forall_mem_list
    intro c member next _
    exact Or.inl (solid c member)
  exact apart.isChain

theorem startsWord_joinWords
    {word : List Char} (filled : word ≠ []) (solid : Solid word)
    (others : List (List Char)) :
    startsWord (joinWords (word :: others)) = true := by
  obtain ⟨head, tail, rfl⟩ := List.exists_cons_of_ne_nil filled
  have headSolid := solid head List.mem_cons_self
  cases others with
  | nil => simp [joinWords, List.intercalate, startsWord, headSolid]
  | cons next rest => simp [joinWords_cons_cons, startsWord, headSolid]

theorem spaced_joinWords {parts : List (List Char)}
    (filled : ∀ word ∈ parts, word ≠ [])
    (solid : ∀ word ∈ parts, Solid word) : Spaced (joinWords parts) := by
  induction parts with
  | nil => exact List.IsChain.nil
  | cons word others inductionHypothesis =>
      obtain ⟨_, othersFilled⟩ := List.forall_mem_cons.mp filled
      obtain ⟨wordSolid, othersSolid⟩ := List.forall_mem_cons.mp solid
      cases others with
      | nil =>
          have single : joinWords [word] = word := by
            simp [joinWords, List.intercalate]
          rw [single]
          exact spaced_of_solid wordSolid
      | cons next rest =>
          have later := inductionHypothesis othersFilled othersSolid
          have starts :=
            startsWord_joinWords (othersFilled next List.mem_cons_self)
              (othersSolid next List.mem_cons_self) rest
          rw [joinWords_cons_cons]
          generalize joinWords (next :: rest) = joined at later starts
          -- the space stands between two characters of words
          cases joined with
          | nil => cases starts
          | cons first after =>
              have firstSolid : isBlank first = false := by
                simpa [startsWord] using starts
              apply List.isChain_append.mpr
              refine ⟨spaced_of_solid wordSolid,
                List.isChain_cons_cons.mpr ⟨Or.inr firstSolid, later⟩, ?_⟩
              intro c last _ _
              exact Or.inl (wordSolid c (List.mem_of_getLast? last))

/-! ## Trimming -/

theorem trimEnd_trimEnd (chars : List Char) :
    trimEnd (trimEnd chars) = trimEnd chars := by
  rw [trimEnd, trimEnd, List.reverse_reverse, List.dropWhile_idempotent]

theorem trim_trim (chars : List Char) : trim (trim chars) = trim chars := by
  rcases trimStart_cases chars with empty | ⟨head, tail, shape, solid⟩
  · rw [trim, trim, empty]
    rfl
  · have trimmed : trim chars = head :: trimEnd tail := by
      rw [trim, shape, trimEnd_cons_of_not_blank solid]
    rw [trimmed, trim, trimStart_cons_of_not_isBlank solid,
      trimEnd_cons_of_not_blank solid, trimEnd_trimEnd]

end Text

namespace ClassText

open Text

/-! ## What a key tells -/

theorem isSpecial_of_isBlank {c : Char} (blank : isBlank c = true) :
    Guard.isSpecial c = false :=
  of_isBlank (fun c => Guard.isSpecial c = false) (by decide) blank

theorem specialCount_of_allBlank {blanks : List Char}
    (blank : AllBlank blanks) : Guard.specialCount blanks = 0 := by
  apply List.countP_eq_zero.mpr
  intro c member
  simp [isSpecial_of_isBlank (blank c member)]

theorem specialCount_key (chars : List Char) :
    Guard.specialCount (key chars) = Guard.specialCount chars := by
  obtain ⟨before, after, beforeBlank, afterBlank, around⟩ :=
    exists_blanks_around chars
  have counts :
      Guard.specialCount (before ++ trim chars ++ after) =
        Guard.specialCount before + Guard.specialCount (trim chars) +
          Guard.specialCount after := by
    rw [Guard.specialCount, List.countP_append, List.countP_append]
    rfl
  rw [← around, specialCount_of_allBlank beforeBlank,
    specialCount_of_allBlank afterBlank] at counts
  rw [key]
  omega

theorem dangerIn?_key (chars : List Char) :
    Guard.dangerIn? (key chars) = Guard.dangerIn? chars :=
  Guard.dangerIn?_eq_of_words_eq (words_trim chars)

theorem isBlankText_key (chars : List Char) :
    isBlankText (key chars) = isBlankText chars := by
  rw [isBlankText, isBlankText, key, trim_trim]

theorem key_eq_of_keyOf_eq {text other : String}
    (same : keyOf other = keyOf text) :
    key other.toList = key text.toList :=
  String.ofList_injective same

/-! ## Sanitizing twice -/

theorem unbracketed_sanitize (chars : List Char) :
    unbracketed (sanitize chars) = sanitize chars :=
  unbracketed_of_specialCount_eq_zero (specialCount_sanitize chars)

theorem sanitize_sanitize (chars : List Char) :
    sanitize (sanitize chars) = sanitize chars := by
  have joined := sanitize_eq_joinWords (sanitize chars)
  rw [unbracketed_sanitize, words_sanitize] at joined
  rw [joined, sanitize_eq_joinWords]

theorem classesOf_classesOf (text : String) :
    classesOf (classesOf text) = classesOf text := by
  rw [classesOf, classesOf, String.toList_ofList, sanitize_sanitize]

/-- What the sanitized form of a text is, and what its key decides. -/
structure Tidied (text : String) : Prop where
  /-- The words that are left without the brackets, one space apart. -/
  joined : ∃ parts,
    Parted (unbracketed text.toList) parts ∧
      (classesOf text).toList = joinWords parts ∧
        tokens (classesOf text) = parts.map String.ofList
  bracketless : ∀ c ∈ (classesOf text).toList, Guard.isSpecial c = false
  trimmed : trim (classesOf text).toList = (classesOf text).toList
  spaced : Spaced (classesOf text).toList
  settled : classesOf (classesOf text) = classesOf text
  /-- Texts with one key cannot be told apart. -/
  keyed : ∀ other, keyOf other = keyOf text →
    classesOf other = classesOf text ∧
      Guard.specialCount other.toList = Guard.specialCount text.toList ∧
        Guard.dangerIn? other.toList = Guard.dangerIn? text.toList ∧
          isBlankText other.toList = isBlankText text.toList

theorem tidied (text : String) : Tidied text := by
  have parted := parted_words (unbracketed text.toList)
  have chars : (classesOf text).toList = sanitize text.toList := by
    rw [classesOf, String.toList_ofList]
  have joined := chars.trans (sanitize_eq_joinWords text.toList)
  constructor
  case joined =>
    refine ⟨_, parted, joined, ?_⟩
    rw [tokens, chars, words_sanitize]
  case bracketless =>
    intro c member
    rw [chars] at member
    exact not_isSpecial_of_mem_sanitize member
  case trimmed =>
    rw [chars, sanitize, trim_trim]
  case spaced =>
    rw [joined]
    exact spaced_joinWords parted.filled parted.solid
  case settled => exact classesOf_classesOf text
  case keyed =>
    intro other sameKey
    have same := key_eq_of_keyOf_eq sameKey
    refine ⟨?_, ?_, ?_, ?_⟩
    · rw [← classesOf_keyOf other, sameKey, classesOf_keyOf]
    · rw [← specialCount_key other.toList, same, specialCount_key]
    · rw [← dangerIn?_key other.toList, same, dangerIn?_key]
    · rw [← isBlankText_key other.toList, same, isBlankText_key]

/-- Brackets that stand between blanks leave blanks behind. -/
example :
    classesOf "\t(p-4 ) [ ] m-\x7b2\x7d\u2003" = "p-4 m-2" := by
  decide +kernel

end ClassText

end UtilityCss

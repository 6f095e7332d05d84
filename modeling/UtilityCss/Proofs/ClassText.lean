import UtilityCss.ClassText
import UtilityCss.Proofs.Text.Blank

/-!
# Normal form of class texts

Sanitizing a text gives the words that are left when the brackets are gone, one
space apart.  The blanks around a text belong to no word, so a text and its key
have the same sanitized form.
-/

namespace UtilityCss.ClassText

open Text

/-- The text without brackets of any kind. -/
def unbracketed (chars : List Char) : List Char :=
  chars.filter fun c => !Guard.isSpecial c

theorem sanitize_eq_joinWords (chars : List Char) :
    sanitize chars = joinWords (words (unbracketed chars)) :=
  trim_collapseBlanks (unbracketed chars)

theorem sanitize_key (chars : List Char) :
    sanitize (key chars) = sanitize chars := by
  rw [sanitize_eq_joinWords, sanitize_eq_joinWords, key, unbracketed,
    unbracketed, words_filter_trim]

theorem words_sanitize (chars : List Char) :
    words (sanitize chars) = words (unbracketed chars) := by
  rw [sanitize, words_trim, words_collapseBlanks]
  rfl

/-- The class names in a text that may have brackets. -/
def namesIn (text : String) : List String :=
  tokens (String.ofList (unbracketed text.toList))

/-- Sanitizing a text keeps its class names. -/
theorem tokens_sanitize (text : String) :
    tokens (String.ofList (sanitize text.toList)) = namesIn text := by
  rw [namesIn, tokens, tokens, String.toList_ofList, String.toList_ofList,
    words_sanitize]

/-! ## What the guard reads off the normal form -/

theorem sanitize_sublist_collapse (chars : List Char) :
    (sanitize chars).Sublist (collapseBlanks (unbracketed chars)) :=
  trim_sublist _

theorem length_sanitize_le (chars : List Char) :
    (sanitize chars).length ≤ chars.length :=
  calc
    (sanitize chars).length ≤ (collapseBlanks (unbracketed chars)).length :=
      (sanitize_sublist_collapse chars).length_le
    _ ≤ (unbracketed chars).length := length_collapseAux_le false _
    _ ≤ chars.length := List.length_filter_le _ _

theorem not_isSpecial_of_mem_sanitize {c : Char} {chars : List Char}
    (member : c ∈ sanitize chars) : Guard.isSpecial c = false := by
  rcases mem_collapseAux ((sanitize_sublist_collapse chars).mem member) with
    rfl | kept
  · decide
  · simpa using (List.mem_filter.mp kept).2

theorem specialCount_sanitize (chars : List Char) :
    Guard.specialCount (sanitize chars) = 0 :=
  List.countP_eq_zero.mpr fun _ member => by
    simp [not_isSpecial_of_mem_sanitize member]

theorem unbracketed_of_specialCount_eq_zero {chars : List Char}
    (clear' : Guard.specialCount chars = 0) : unbracketed chars = chars :=
  List.filter_eq_self.mpr fun c member => by
    simpa using List.countP_eq_zero.mp clear' c member

end UtilityCss.ClassText

import UtilityCss.Proofs.Conversion

/-!
# Advice on shapes

Of the three pieces of advice the first alone speaks of shapes: it names the
tokens without a known shape, or counts them.  So it can be told from the
warnings of a conversion whether there are such tokens, and what they say about
shapes depends on these tokens only.
-/

namespace UtilityCss.Warnings

/-- The two forms of the advice on tokens that do not look like classes. -/
inductive TellsOfShapes : String → Prop
  | listed (tokens : List String) :
      TellsOfShapes
        ("Potentially invalid classes: " ++ ", ".intercalate tokens)
  | counted (count : Nat) :
      TellsOfShapes (toString count ++ " potentially invalid classes detected")

theorem not_tellsOfShapes {advice : String}
    (opens : advice.toList.head? ≠ some 'P')
    (closes : advice.toList.getLast? ≠ some 'd') :
    ¬ TellsOfShapes advice := by
  intro tells
  cases tells with
  | listed tokens => simp [String.toList_append] at opens
  | counted count => simp [String.toList_append] at closes

theorem not_tellsOfShapes_of_mem_onStyles
    {tokens : List String} {css advice : String}
    (member : advice ∈ onStyles tokens css) : ¬ TellsOfShapes advice := by
  rw [onStyles] at member
  split at member
  · rw [List.mem_singleton.mp member]
    exact not_tellsOfShapes (by decide) (by decide)
  · cases member

theorem not_tellsOfShapes_of_mem_onLength
    {tokens : List String} {advice : String}
    (member : advice ∈ onLength tokens) : ¬ TellsOfShapes advice := by
  rw [onLength] at member
  split at member
  · rw [List.mem_singleton.mp member]
    exact not_tellsOfShapes (by decide) (by decide)
  · cases member

theorem exists_onShapes {tokens : List String}
    (suspicious : unrecognized tokens ≠ []) :
    ∃ advice, onShapes tokens = [advice] ∧ TellsOfShapes advice := by
  rw [onShapes]
  split
  · rename_i recognized
    exact absurd recognized suspicious
  · split
    · exact ⟨_, rfl, TellsOfShapes.listed _⟩
    · exact ⟨_, rfl, TellsOfShapes.counted _⟩

theorem unrecognized_unrecognized (tokens : List String) :
    unrecognized (unrecognized tokens) = unrecognized tokens := by
  rw [unrecognized, unrecognized, List.filter_filter]
  simp

/-- The warnings advise on the shapes of the tokens, and not on other shapes. -/
def AdvisesOn (tokens warnings : List String) : Prop :=
  ∃ others,
    warnings = onShapes tokens ++ others ∧
      ∀ advice ∈ others, ¬ TellsOfShapes advice

theorem advisesOn_generate (classes css : String) :
    AdvisesOn (ClassText.tokens classes) (generate classes css) := by
  refine ⟨onStyles (ClassText.tokens classes) css ++
    onLength (ClassText.tokens classes), ?_, ?_⟩
  · rw [generate, List.append_assoc]
  · intro advice member
    rcases List.mem_append.mp member with styles | length
    · exact not_tellsOfShapes_of_mem_onStyles styles
    · exact not_tellsOfShapes_of_mem_onLength length

section Advising

variable {tokens warnings : List String}

theorem AdvisesOn.congr
    (advises : AdvisesOn tokens warnings) {tokens' : List String}
    (same : unrecognized tokens = unrecognized tokens') :
    AdvisesOn tokens' warnings := by
  obtain ⟨others, shape, silent⟩ := advises
  have shapes : onShapes tokens = onShapes tokens' := by
    rw [onShapes, onShapes, same]
  exact ⟨others, shapes ▸ shape, silent⟩

theorem AdvisesOn.tells_iff (advises : AdvisesOn tokens warnings) :
    (∃ advice ∈ warnings, TellsOfShapes advice) ↔
      unrecognized tokens ≠ [] := by
  obtain ⟨others, shape, silent⟩ := advises
  constructor
  · intro tells recognized
    obtain ⟨advice, member, told⟩ := tells
    rw [shape, onShapes, recognized, List.nil_append] at member
    exact silent advice member told
  · intro suspicious
    obtain ⟨advice, single, told⟩ := exists_onShapes suspicious
    refine ⟨advice, ?_, told⟩
    rw [shape, single]
    exact List.mem_cons_self

end Advising

/-! ## Conversions -/

theorem classesOf_of_blank {text : String}
    (blank : ClassText.isBlankText text.toList = true) :
    classesOf text = "" := by
  have nothing : ClassText.key text.toList = [] :=
    List.isEmpty_iff.mp blank
  rw [classesOf, ← ClassText.sanitize_key, nothing]
  rfl

/-- The warnings of an accepted text advise on its classes; where there are no
warnings, there are no classes. -/
theorem advisesOn_alone {limit : Int} {text : String}
    (passed : Guard.check limit text.toList = Except.ok ())
    (styles : String → StyleValues) :
    AdvisesOn (ClassText.tokens (classesOf text))
      ((Conversion.alone limit styles text).warnings.getD []) := by
  cases blank : ClassText.isBlankText text.toList with
  | true =>
      rw [Conversion.alone_of_blank limit styles blank,
        classesOf_of_blank blank]
      exact ⟨[], by decide, by simp⟩
  | false =>
      rw [Conversion.alone_of_accepted styles ⟨blank, passed⟩]
      exact advisesOn_generate _ _

end UtilityCss.Warnings

import UtilityCss.Atom

/-!
# When two keys are the same

Keys are the same when they stand for the same number, for the same point of
time, or are the same atom.  So sameness of keys is symmetric and transitive,
though not every atom is the same key as itself.
-/

namespace UtilityCss

open Decimal

/-- What a key stands for. -/
inductive KeyMeaning where
  | number (value : Int)
  | instant (microseconds : Int)
  | atom (content : Atom)

namespace Atom

/-- What an atom stands for if it counts as no integer. -/
def fractionless? : Atom → Option KeyMeaning
  | float Binary64.undefined => none
  | moment time =>
      match time.instant? with
      | some microseconds => some (KeyMeaning.instant microseconds)
      | none => some (KeyMeaning.atom (moment time))
  | content => some (KeyMeaning.atom content)

/-- What an atom stands for as a key. -/
def meaning? (key : Atom) : Option KeyMeaning :=
  match key.integer? with
  | some value => some (KeyMeaning.number value)
  | none => key.fractionless?

theorem toInt?_finite_zero (negative : Bool) (exponent : Int) :
    (Binary64.finite negative 0 exponent).toInt? = some 0 := by
  have zero : (Binary64.ratio 0 exponent).1 = 0 := by
    rw [Binary64.ratio, scaleRatio]
    split <;> simp
  simp [Binary64.toInt?, zero]

/-- Fractions have the same value only if they are the same number. -/
theorem sameValue_iff {left right : Binary64} (fraction : left.toInt? = none) :
    left.sameValue right = true ↔
      left = right ∧ left ≠ Binary64.undefined := by
  cases left with
  | undefined => simp [Binary64.sameValue]
  | infinite negative => cases right <;> simp [Binary64.sameValue]
  | finite negative mantissa exponent =>
      cases mantissa with
      | zero =>
          rw [toInt?_finite_zero] at fraction
          cases fraction
      | succ mantissa => cases right <;> simp [Binary64.sameValue]

theorem fractionless?_ne_number (key : Atom) (value : Int) :
    key.fractionless? ≠ some (KeyMeaning.number value) := by
  cases key with
  | float number => cases number <;> simp [fractionless?]
  | moment time =>
      rw [fractionless?]
      split <;> simp
  | _ => simp [fractionless?]

theorem sameTime_iff (left right : Moment) :
    left.sameTime right = true ↔
      (moment left).fractionless? = (moment right).fractionless? := by
  rw [Moment.sameTime, fractionless?, fractionless?]
  cases left.instant? with
  | none => cases right.instant? <;> simp
  | some microseconds => cases right.instant? <;> simp

/-- Atoms that count as no integer are the same key when they stand for the
same. -/
theorem sameKey_iff_of_fractionless {left right : Atom}
    (leftNumber : left.integer? = none) (rightNumber : right.integer? = none) :
    left.sameKey right = true ↔
      left.fractionless? ≠ none ∧
        left.fractionless? = right.fractionless? := by
  unfold sameKey
  rw [leftNumber, rightNumber]
  cases left with
  | float number =>
      have fraction : number.toInt? = none := leftNumber
      cases right with
      | float other =>
          simp only [sameValue_iff fraction]
          cases number <;> cases other <;> simp [fractionless?]
      | moment time =>
          simp only [fractionless?]
          cases number <;> cases time.instant? <;> simp
      | _ => cases number <;> simp [fractionless?]
  | moment time =>
      cases right with
      | moment other =>
          have known : (moment time).fractionless? ≠ none := by
            rw [fractionless?]
            split <;> simp
          simp only [sameTime_iff]
          exact ⟨fun same => ⟨known, same⟩, fun both => both.2⟩
      | float number =>
          simp only [fractionless?]
          cases number <;> cases time.instant? <;> simp
      | _ =>
          simp only [fractionless?]
          cases time.instant? <;> simp
  | _ =>
      cases right with
      | float number => cases number <;> simp [fractionless?]
      | moment time =>
          simp only [fractionless?]
          cases time.instant? <;> simp
      | _ => simp [fractionless?]

/-- What stands for an atom is that atom. -/
theorem eq_of_meaning?_eq_atom {key content : Atom}
    (stands : key.meaning? = some (KeyMeaning.atom content)) :
    key = content := by
  rw [meaning?] at stands
  split at stands
  · cases stands
  · rw [fractionless?.eq_def] at stands
    split at stands
    · cases stands
    · split at stands
      · cases stands
      · exact KeyMeaning.atom.inj (Option.some.inj stands)
    · exact KeyMeaning.atom.inj (Option.some.inj stands)

theorem sameKey_iff (left right : Atom) :
    left.sameKey right = true ↔
      left.meaning? ≠ none ∧ left.meaning? = right.meaning? := by
  cases leftNumber : left.integer? with
  | some leftValue =>
      cases rightNumber : right.integer? with
      | some rightValue => simp [sameKey, meaning?, leftNumber, rightNumber]
      | none =>
          have other := right.fractionless?_ne_number leftValue
          simp [sameKey, meaning?, leftNumber, rightNumber, other.symm]
  | none =>
      cases rightNumber : right.integer? with
      | some rightValue =>
          have other := left.fractionless?_ne_number rightValue
          simp [sameKey, meaning?, leftNumber, rightNumber, other]
      | none =>
          simp only [meaning?, leftNumber, rightNumber]
          exact sameKey_iff_of_fractionless leftNumber rightNumber

/-- Only an equal text is the same key as a text. -/
theorem text_beq_iff (chars : String) (other : Atom) :
    (text chars == other) = true ↔ text chars = other := by
  have sameKey : (text chars == other) = (text chars).sameKey other :=
    rfl
  have known : (text chars).meaning? =
      some (KeyMeaning.atom (text chars)) := rfl
  rw [sameKey, sameKey_iff, known]
  constructor
  · rintro ⟨_, equal⟩
    exact (eq_of_meaning?_eq_atom equal.symm).symm
  · rintro rfl
    exact ⟨Option.some_ne_none _, known.symm⟩

end Atom

instance : PartialEquivBEq Atom where
  symm := by
    intro left right same
    obtain ⟨known, equal⟩ := (Atom.sameKey_iff left right).mp same
    exact (Atom.sameKey_iff right left).mpr ⟨equal ▸ known, equal.symm⟩
  trans := by
    intro left middle right first second
    obtain ⟨known, equal⟩ := (Atom.sameKey_iff left middle).mp first
    obtain ⟨_, equal'⟩ := (Atom.sameKey_iff middle right).mp second
    exact (Atom.sameKey_iff left right).mpr ⟨known, equal.trans equal'⟩

end UtilityCss

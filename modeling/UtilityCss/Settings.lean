import UtilityCss.Settings.Field

/-!
# Settings of a processor

The settings are fixed when a processor is made.  They are read from named
values; every field that does not fit is complained about.
-/

namespace UtilityCss

structure Settings where
  debounceMilliseconds : Nat
  maxInputLength : Nat
  highlighting : Bool
  cacheCapacity : Nat
  maxInputLength_pos : 0 < maxInputLength
  cacheCapacity_pos : 0 < cacheCapacity
deriving DecidableEq, Repr

namespace Settings

def usual : Settings where
  debounceMilliseconds := 300
  maxInputLength := 10000
  highlighting := true
  cacheCapacity := 50
  maxInputLength_pos := by decide
  cacheCapacity_pos := by decide

instance : Inhabited Settings := ⟨usual⟩

/-- An integer that must be positive. -/
def positive (value : Value) : Except Problem { number : Nat // 0 < number } :=
  match Field.integer value with
  | Except.error problem => Except.error problem
  | Except.ok number =>
      if isPositive : 0 < number then
        Except.ok ⟨number.toNat, Int.lt_toNat.2 isPositive⟩
      else
        Except.error Problem.notAbove

/-- An integer that must not be negative. -/
def natural (value : Value) : Except Problem Nat :=
  match Field.integer value with
  | Except.error problem => Except.error problem
  | Except.ok number =>
      if 0 ≤ number then Except.ok number.toNat else Except.error Problem.belowBound

/-- The settings with the given fields, the others as usual. -/
def ofFields (field? : String → Option Value) : Except Invalid Settings :=
  let debounce := Field.orDefault natural usual.debounceMilliseconds (field? "debounce_ms")
  let limit :=
    Field.orDefault positive ⟨usual.maxInputLength, usual.maxInputLength_pos⟩
      (field? "max_input_length")
  let highlighting :=
    Field.orDefault Field.truth usual.highlighting (field? "enable_syntax_highlighting")
  let capacity :=
    Field.orDefault positive ⟨usual.cacheCapacity, usual.cacheCapacity_pos⟩
      (field? "cache_capacity")
  match debounce, limit, highlighting, capacity with
  | Except.ok debounce, Except.ok limit, Except.ok highlighting, Except.ok capacity =>
      Except.ok ⟨debounce, limit.1, highlighting, capacity.1, limit.2, capacity.2⟩
  | _, _, _, _ =>
      Except.error ⟨"ProcessorConfig",
        [Field.complaint? "debounce_ms" debounce,
          Field.complaint? "max_input_length" limit,
          Field.complaint? "enable_syntax_highlighting" highlighting,
          Field.complaint? "cache_capacity" capacity].filterMap id⟩

/-- The settings in a merged configuration: a field without a value counts as
not given. -/
def ofMerged (field? : String → Option Value) : Except Invalid Settings :=
  ofFields fun name => (field? name).filter fun value => !value.isNull

end Settings

end UtilityCss

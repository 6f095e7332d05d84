import UtilityCss.Conversion
import UtilityCss.Proofs.ClassText
import UtilityCss.Proofs.RecencyCache

/-!
# How conversions open and close

A text is blank, rejected, or accepted, and this alone decides what its
conversion is without a cache.  An accepted text is looked up under its key; the
key determines the classes that are resolved, so what is stored under a key fits
every text that has it.  Only successes are stored, and never more of them than
there is room for.
-/

namespace UtilityCss

/-- Neither blank nor turned away by the guard. -/
structure Accepted (limit : Int) (text : String) : Prop where
  filled : ClassText.isBlankText text.toList = false
  passed : Guard.check limit text.toList = Except.ok ()

/-- What the checks say about a text. -/
inductive Screening (limit : Int) (text : String) : Prop where
  | blank (empty : ClassText.isBlankText text.toList = true)
  | rejected (cause : Rejection)
      (filled : ClassText.isBlankText text.toList = false)
      (failed : Guard.check limit text.toList = Except.error cause)
  | accepted (accepted : Accepted limit text)

theorem screening (limit : Int) (text : String) : Screening limit text := by
  cases blank : ClassText.isBlankText text.toList with
  | true => exact Screening.blank blank
  | false =>
      cases verdict : Guard.check limit text.toList with
      | error cause => exact Screening.rejected cause blank verdict
      | ok passed => exact Screening.accepted ⟨blank, verdict⟩

def keyOf (text : String) : String :=
  String.ofList (ClassText.key text.toList)

/-- The classes of a text as they are resolved. -/
def classesOf (text : String) : String :=
  String.ofList (ClassText.sanitize text.toList)

/-- The classes of a text are those of its key. -/
theorem classesOf_keyOf (text : String) :
    classesOf (keyOf text) = classesOf text := by
  rw [classesOf, keyOf, String.toList_ofList, ClassText.sanitize_key,
    classesOf]

def Job.ofText (text : String) : Job :=
  ⟨keyOf text, classesOf text⟩

namespace Processor

/-! ## Opening -/

theorem opening_of_blank (processor : Processor) {text : String}
    (blank : ClassText.isBlankText text.toList = true) :
    processor.opening text =
      (Opening.settled Conversion.blank, [Phase.validating, Phase.succeeded],
        processor.enter [Phase.validating, Phase.succeeded]) := by
  simp only [opening, blank, if_true]

theorem opening_of_rejected (processor : Processor) {text : String}
    {cause : Rejection}
    (filled : ClassText.isBlankText text.toList = false)
    (failed :
      Guard.check processor.settings.maxInputLength text.toList =
        Except.error cause) :
    processor.opening text =
      (Opening.settled (Conversion.failed (Fault.ofRejection cause)),
        [Phase.validating, Phase.failed],
        processor.enter [Phase.validating, Phase.failed]) := by
  simp only [opening, filled, failed]
  rfl

theorem opening_of_hit (processor : Processor) {text : String}
    {found : Conversion}
    (accepted : Accepted processor.settings.maxInputLength text)
    (hit : processor.cache.peek? (keyOf text) = some found) :
    processor.opening text =
      (Opening.settled found,
        [Phase.validating, Phase.cacheHit, Phase.succeeded],
        { processor with
          cache := (processor.cache.get? (keyOf text)).2,
          hits := processor.hits + 1 }.enter
            [Phase.validating, Phase.cacheHit, Phase.succeeded]) := by
  have lookup :
      processor.cache.get? (keyOf text) =
        (some found, (processor.cache.get? (keyOf text)).2) :=
    Prod.ext ((processor.cache.get?_fst (keyOf text)).trans hit) rfl
  simp only [opening, accepted.filled, accepted.passed, Bool.false_eq_true,
    if_false]
  rw [← keyOf, lookup]

theorem opening_of_miss (processor : Processor) {text : String}
    (accepted : Accepted processor.settings.maxInputLength text)
    (miss : processor.cache.peek? (keyOf text) = none) :
    processor.opening text =
      (Opening.unresolved (Job.ofText text),
        [Phase.validating, Phase.extracting],
        { processor with misses := processor.misses + 1 }.enter
          [Phase.validating, Phase.extracting]) := by
  have lookup :
      processor.cache.get? (keyOf text) =
        (none, (processor.cache.get? (keyOf text)).2) :=
    Prod.ext ((processor.cache.get?_fst (keyOf text)).trans miss) rfl
  simp only [opening, accepted.filled, accepted.passed, Bool.false_eq_true,
    if_false]
  rw [← keyOf, lookup]
  rfl

/-- The four ways in which a conversion opens. -/
inductive Opens (processor : Processor) (text : String) :
    Opening × List Phase × Processor → Prop
  | blank (empty : ClassText.isBlankText text.toList = true) :
      Opens processor text
        (Opening.settled Conversion.blank,
          [Phase.validating, Phase.succeeded],
          processor.enter [Phase.validating, Phase.succeeded])
  | rejected (cause : Rejection)
      (filled : ClassText.isBlankText text.toList = false)
      (failed :
        Guard.check processor.settings.maxInputLength text.toList =
          Except.error cause) :
      Opens processor text
        (Opening.settled (Conversion.failed (Fault.ofRejection cause)),
          [Phase.validating, Phase.failed],
          processor.enter [Phase.validating, Phase.failed])
  | hit (found : Conversion)
      (accepted : Accepted processor.settings.maxInputLength text)
      (hit : processor.cache.peek? (keyOf text) = some found) :
      Opens processor text
        (Opening.settled found,
          [Phase.validating, Phase.cacheHit, Phase.succeeded],
          { processor with
            cache := (processor.cache.get? (keyOf text)).2,
            hits := processor.hits + 1 }.enter
              [Phase.validating, Phase.cacheHit, Phase.succeeded])
  | miss (accepted : Accepted processor.settings.maxInputLength text)
      (miss : processor.cache.peek? (keyOf text) = none) :
      Opens processor text
        (Opening.unresolved (Job.ofText text),
          [Phase.validating, Phase.extracting],
          { processor with misses := processor.misses + 1 }.enter
            [Phase.validating, Phase.extracting])

theorem opens (processor : Processor) (text : String) :
    processor.Opens text (processor.opening text) := by
  cases screening processor.settings.maxInputLength text with
  | blank empty =>
      rw [processor.opening_of_blank empty]
      exact Opens.blank empty
  | rejected cause filled failed =>
      rw [processor.opening_of_rejected filled failed]
      exact Opens.rejected cause filled failed
  | accepted accepted =>
      cases lookup : processor.cache.peek? (keyOf text) with
      | none =>
          rw [processor.opening_of_miss accepted lookup]
          exact Opens.miss accepted lookup
      | some found =>
          rw [processor.opening_of_hit accepted lookup]
          exact Opens.hit found accepted lookup

/-- What is left to do for a text is named after the text. -/
theorem job_of_opening {processor next : Processor} {text : String}
    {job : Job} {phases : List Phase}
    (unresolved :
      processor.opening text = (Opening.unresolved job, phases, next)) :
    job = Job.ofText text := by
  have opens := processor.opens text
  rw [unresolved] at opens
  cases opens
  rfl

end Processor

/-! ## Conversions without a cache -/

/-- What a text gives when nothing is remembered and the styles of every class
text are found. -/
def Conversion.alone (limit : Int) (styles : String → StyleValues)
    (text : String) : Conversion :=
  if ClassText.isBlankText text.toList then Conversion.blank
  else
    match Guard.check limit text.toList with
    | Except.error cause => Conversion.failed (Fault.ofRejection cause)
    | Except.ok () =>
        Conversion.ofStyles (classesOf text) (styles (classesOf text))

namespace Conversion

theorem alone_of_blank (limit : Int) (styles : String → StyleValues)
    {text : String} (blank : ClassText.isBlankText text.toList = true) :
    alone limit styles text = Conversion.blank := by
  rw [alone, if_pos blank]

theorem alone_of_rejected {limit : Int} (styles : String → StyleValues)
    {text : String} {cause : Rejection}
    (filled : ClassText.isBlankText text.toList = false)
    (failed : Guard.check limit text.toList = Except.error cause) :
    alone limit styles text = Conversion.failed (Fault.ofRejection cause) := by
  rw [alone, filled, if_neg Bool.false_ne_true, failed]

theorem alone_of_accepted {limit : Int} (styles : String → StyleValues)
    {text : String} (accepted : Accepted limit text) :
    alone limit styles text =
      ofStyles (classesOf text) (styles (classesOf text)) := by
  rw [alone, accepted.filled, if_neg Bool.false_ne_true, accepted.passed]

end Conversion

namespace Processor

/-- Everything that is remembered is what the styles of its key give. -/
def Remembers (processor : Processor) (styles : String → StyleValues) : Prop :=
  ∀ entry ∈ processor.cache.entries,
    entry.2 =
      Conversion.ofStyles (classesOf entry.1) (styles (classesOf entry.1))

theorem remembers_create (settings : Settings)
    (styles : String → StyleValues) : (create settings).Remembers styles :=
  fun entry member => by cases member

theorem remembers_reset (processor : Processor)
    (styles : String → StyleValues) : processor.reset.Remembers styles :=
  fun entry member => by cases member

section Remembering

variable {processor : Processor} {styles : String → StyleValues}

/-- What is found under the key of a text is what the text gives alone. -/
theorem Remembers.found (remembers : processor.Remembers styles)
    {text : String} {found : Conversion}
    (accepted : Accepted processor.settings.maxInputLength text)
    (hit : processor.cache.peek? (keyOf text) = some found) :
    found = Conversion.alone processor.settings.maxInputLength styles text := by
  have stored := remembers _ (RecencyCache.mem_entries_of_peek? hit)
  rw [classesOf_keyOf] at stored
  rw [Conversion.alone_of_accepted styles accepted]
  exact stored

theorem opening_settings (processor : Processor) (text : String) :
    (processor.opening text).2.2.settings = processor.settings := by
  cases screening processor.settings.maxInputLength text with
  | blank empty => rw [processor.opening_of_blank empty]; rfl
  | rejected cause filled failed =>
      rw [processor.opening_of_rejected filled failed]; rfl
  | accepted accepted =>
      cases lookup : processor.cache.peek? (keyOf text) with
      | none => rw [processor.opening_of_miss accepted lookup]; rfl
      | some found => rw [processor.opening_of_hit accepted lookup]; rfl

theorem Remembers.opening (remembers : processor.Remembers styles)
    (text : String) : (processor.opening text).2.2.Remembers styles := by
  cases screening processor.settings.maxInputLength text with
  | blank empty =>
      rw [processor.opening_of_blank empty]
      exact remembers
  | rejected cause filled failed =>
      rw [processor.opening_of_rejected filled failed]
      exact remembers
  | accepted accepted =>
      cases lookup : processor.cache.peek? (keyOf text) with
      | none =>
          rw [processor.opening_of_miss accepted lookup]
          exact remembers
      | some found =>
          rw [processor.opening_of_hit accepted lookup]
          intro entry member
          exact remembers entry (RecencyCache.mem_entries_of_get? member)

/-- A text is settled with what it gives alone, or still has to be resolved. -/
theorem Remembers.opening_cases (remembers : processor.Remembers styles)
    (text : String) :
    (processor.opening text).1 =
        Opening.settled
          (Conversion.alone processor.settings.maxInputLength styles text) ∨
      (Accepted processor.settings.maxInputLength text ∧
        (processor.opening text).1 =
          Opening.unresolved (Job.ofText text)) := by
  cases screening processor.settings.maxInputLength text with
  | blank empty =>
      rw [processor.opening_of_blank empty,
        Conversion.alone_of_blank _ _ empty]
      exact Or.inl rfl
  | rejected cause filled failed =>
      rw [processor.opening_of_rejected filled failed,
        Conversion.alone_of_rejected _ filled failed]
      exact Or.inl rfl
  | accepted accepted =>
      cases lookup : processor.cache.peek? (keyOf text) with
      | none =>
          rw [processor.opening_of_miss accepted lookup]
          exact Or.inr ⟨accepted, rfl⟩
      | some found =>
          rw [processor.opening_of_hit accepted lookup,
            remembers.found accepted lookup]
          exact Or.inl rfl

theorem closing_eq (processor : Processor) (job : Job)
    (outcome : Except Fault StyleValues) (wanted : Bool) :
    processor.closing job outcome wanted =
      ((closingResult job outcome).1, (closingResult job outcome).2,
        (processor.enter (closingResult job outcome).2).remember job
          (closingResult job outcome).1 wanted) :=
  rfl

theorem closing_settings (processor : Processor) (job : Job)
    (outcome : Except Fault StyleValues) (wanted : Bool) :
    (processor.closing job outcome wanted).2.2.settings =
      processor.settings := by
  rw [closing_eq, remember]
  split
  · rfl
  · rfl

theorem Remembers.closing (remembers : processor.Remembers styles)
    {text : String} {outcome : Except Fault StyleValues}
    (right : ∀ values, outcome = Except.ok values →
      values = styles (classesOf text)) (wanted : Bool) :
    (processor.closing (Job.ofText text) outcome wanted).2.2.Remembers
      styles := by
  intro entry member
  cases outcome with
  | error fault =>
      rw [closing_eq, remember, if_neg (fun both => by cases both.2)]
        at member
      exact remembers entry member
  | ok values =>
      have found := right values rfl
      subst values
      rw [closing_eq, remember] at member
      split at member
      · rcases RecencyCache.mem_entries_of_set member with
          rfl | ⟨stored, _⟩
        · simp only [Job.ofText, classesOf_keyOf]
          rfl
        · exact remembers entry stored
      · exact remembers entry member

end Remembering

/-- With a resolver that finds the right styles, a conversion gives what its
text gives alone, whatever is remembered. -/
theorem Remembers.convert {σ : Type} {processor : Processor}
    {styles : String → StyleValues} (remembers : processor.Remembers styles)
    {resolver : Resolver σ} {state : σ} {text : String}
    (resolved :
      (resolver.extract state (classesOf text)).1 =
        Except.ok (styles (classesOf text))) :
    (processor.convert resolver state text).1 =
      Conversion.alone processor.settings.maxInputLength styles text := by
  rw [Processor.convert]
  rcases remembers.opening_cases text with settled | ⟨accepted, missed⟩
  · rcases opened : processor.opening text with ⟨result | job, phases, next⟩
    · rw [opened] at settled
      exact Opening.settled.inj settled
    · rw [opened] at settled
      cases settled
  · rcases opened : processor.opening text with ⟨result | job, phases, next⟩
    · rw [opened] at missed
      cases missed
    · rw [opened] at missed
      obtain rfl := Opening.unresolved.inj missed
      rw [Conversion.alone_of_accepted styles accepted]
      simp only [closing_eq, Job.ofText, resolved, closingResult]

end Processor

/-- A resolver that finds fixed styles for every class text. -/
def Resolver.ofStyles (styles : String → StyleValues) : Resolver Unit where
  create _ classes := (Except.ok ⟨0, classes, Handle.missing⟩, ())
  compute _ context := (Except.ok (styles context.classes), ())
  destroy _ _ := (Except.ok (), ())

/-- A fresh processor gives what a text gives alone. -/
theorem Processor.convert_create (settings : Settings)
    (styles : String → StyleValues) (text : String) :
    ((create settings).convert (Resolver.ofStyles styles) () text).1 =
      Conversion.alone settings.maxInputLength styles text :=
  (remembers_create settings styles).convert rfl

/-! ## What a processor keeps -/

/-- What holds of a processor whatever it has been through: it has room for what
it remembers, and it remembers successes of texts that were not blank. -/
structure Processor.Orderly (settings : Settings) (processor : Processor) :
    Prop where
  fixed : processor.settings = settings
  capacity : processor.cache.capacity = settings.cacheCapacity
  room : processor.cache.size ≤ processor.cache.capacity
  successes : ∀ entry ∈ processor.cache.entries,
    entry.2.failure = none ∧ entry.2.warnings ≠ none

namespace Processor

theorem orderly_create (settings : Settings) :
    (create settings).Orderly settings where
  fixed := rfl
  capacity := rfl
  room := Nat.zero_le _
  successes := fun _ member => by cases member

section Orderly

variable {settings : Settings} {processor : Processor}
variable (orderly : processor.Orderly settings)

include orderly

theorem Orderly.reset : processor.reset.Orderly settings where
  fixed := orderly.fixed
  capacity := orderly.capacity
  room := Nat.zero_le _
  successes := fun _ member => by cases member

theorem Orderly.capacity_pos : 0 < processor.cache.capacity :=
  orderly.capacity ▸ settings.cacheCapacity_pos

theorem Orderly.opening (text : String) :
    (processor.opening text).2.2.Orderly settings := by
  have opens := processor.opens text
  generalize processor.opening text = opened at opens ⊢
  cases opens with
  | hit found accepted hit =>
      refine ⟨orderly.fixed, ?_, ?_, fun entry member => ?_⟩
      · exact (RecencyCache.capacity_get? _ _).trans orderly.capacity
      · exact Nat.le_trans
          (RecencyCache.size_get?_le orderly.capacity_pos orderly.room _)
          (Nat.le_of_eq (RecencyCache.capacity_get? _ _).symm)
      · exact orderly.successes entry (RecencyCache.mem_entries_of_get? member)
  | _ => exact ⟨orderly.fixed, orderly.capacity, orderly.room,
      orderly.successes⟩

theorem Orderly.closing (job : Job) (outcome : Except Fault StyleValues)
    (wanted : Bool) :
    (processor.closing job outcome wanted).2.2.Orderly settings := by
  have unchanged : ∀ phases, (processor.enter phases).Orderly settings :=
    fun _ => ⟨orderly.fixed, orderly.capacity, orderly.room,
      orderly.successes⟩
  rw [closing_eq, remember]
  split
  · rename_i kept
    refine ⟨orderly.fixed, ?_, ?_, fun entry member => ?_⟩
    · exact (RecencyCache.capacity_set _ _ _).trans orderly.capacity
    · exact Nat.le_trans
        (RecencyCache.size_set_le orderly.capacity_pos orderly.room _ _)
        (Nat.le_of_eq (RecencyCache.capacity_set _ _ _).symm)
    · rcases RecencyCache.mem_entries_of_set member with rfl | ⟨stored, _⟩
      · cases outcome with
        | error fault => cases kept.2
        | ok styles => exact ⟨rfl, by rintro ⟨⟩⟩
      · exact orderly.successes entry stored
  · exact unchanged _

theorem Orderly.found {text : String} {found : Conversion}
    (hit : processor.cache.peek? (keyOf text) = some found) :
    found.failure = none ∧ found.warnings ≠ none :=
  orderly.successes _ (RecencyCache.mem_entries_of_peek? hit)

end Orderly

end Processor

end UtilityCss

import UtilityCss.Fault

/-!
# What a fault is reported as

Input that was turned away and a resolver that names its trouble speak for
themselves.  Of any other fault only its name and its message are known: the name
counts before the message, and in the message the mark of the gravest kind counts
before the others, wherever it stands.
-/

namespace UtilityCss

theorem Text.contains_iff_infix (needle text : List Char) :
    Text.contains needle text = true ↔ needle <:+: text := by
  induction text with
  | nil => rw [contains, List.isEmpty_iff, List.infix_nil]
  | cons head tail inductionHypothesis =>
      rw [contains, Bool.or_eq_true, List.isPrefixOf_iff_prefix,
        inductionHypothesis, List.infix_cons_iff]

namespace Fault

/-- The fault turns input away. -/
def TurnsAway : Fault → Prop
  | declined _ _ => True
  | rejected _ _ => True
  | _ => False

/-- The trouble that a resolver names, whatever the name of the fault. -/
def trouble? : Fault → Option Trouble
  | resolver _ Trouble.unspecified _ _ => none
  | resolver _ trouble _ _ => some trouble
  | _ => none

/-- Only the name and the message tell what the fault is about. -/
def Obscure (fault : Fault) : Prop :=
  ¬ fault.TurnsAway ∧ fault.trouble? = none

/-- What the message of an obscure fault may mention, the gravest first, and the
kind that it stands for. -/
def marks : List (String × ErrorKind) :=
  [("SecurityError", ErrorKind.contextSecurity),
    ("DOM", ErrorKind.contextConstruction),
    ("getComputedStyle", ErrorKind.styleComputation)]

/-- The mark stands somewhere in the message. -/
def Mentions (fault : Fault) (mark : String) : Prop :=
  mark.toList <:+: fault.message.toList

/-- The report that is due for a fault. -/
structure Classified (fault : Fault) (failure : Failure) : Prop where
  /-- Input that was turned away has a kind and a message of its own. -/
  turnedAway : fault.TurnsAway →
    fault.kind? = some failure.kind ∧ failure.message = fault.message
  troubled : ∀ trouble, fault.trouble? = some trouble →
    failure = Failure.ofKind trouble.kind
  named : fault.Obscure → fault.name = "SecurityError" →
    failure = Failure.ofKind ErrorKind.contextSecurity
  /-- The first of the marks that the message mentions decides. -/
  marked : fault.Obscure → fault.name ≠ "SecurityError" →
    ∀ before mark kind others, marks = before ++ (mark, kind) :: others →
      (∀ earlier ∈ before, ¬ fault.Mentions earlier.1) →
        fault.Mentions mark → failure = Failure.ofKind kind
  unmarked : fault.Obscure → fault.name ≠ "SecurityError" →
    (∀ mark ∈ marks, ¬ fault.Mentions mark.1) →
      failure = Failure.ofKind ErrorKind.unknown

section Shapes

variable {name message : String}

theorem kindByShape_of_name (message : String) :
    kindByShape "SecurityError" message = ErrorKind.contextSecurity :=
  if_pos rfl

/-- The search goes through the marks in their order. -/
theorem kindByShape_eq_find? (other : name ≠ "SecurityError") :
    kindByShape name message =
      ((marks.find? fun mark =>
        Text.contains mark.1.toList message.toList).map Prod.snd).getD
          ErrorKind.unknown := by
  rw [kindByShape, if_neg other, marks]
  simp only [List.find?_cons, List.find?_nil]
  split
  · rename_i security
    simp only [security, Option.map_some, Option.getD_some]
  · rename_i insecurity
    simp only [insecurity]
    split
    · rename_i construction
      simp only [construction, Option.map_some, Option.getD_some]
    · rename_i other
      simp only [other]
      split
      · rename_i computation
        simp only [computation, Option.map_some, Option.getD_some]
      · rename_i nothing
        simp only [nothing, Option.map_none, Option.getD_none]

theorem kindByShape_of_mark (other : name ≠ "SecurityError")
    {before others : List (String × ErrorKind)} {mark : String}
    {kind : ErrorKind} (partition : marks = before ++ (mark, kind) :: others)
    (absent : ∀ earlier ∈ before, ¬ earlier.1.toList <:+: message.toList)
    (present : mark.toList <:+: message.toList) :
    kindByShape name message = kind := by
  have found :
      (marks.find? fun mark =>
        Text.contains mark.1.toList message.toList) = some (mark, kind) := by
    refine List.find?_eq_some_iff_append.mpr
      ⟨(Text.contains_iff_infix _ _).mpr present, before, others, partition,
        fun earlier member => ?_⟩
    rw [Bool.not_eq_true', ← Bool.not_eq_true, Text.contains_iff_infix]
    exact absent earlier member
  rw [kindByShape_eq_find? other, found]
  rfl

theorem kindByShape_of_unmarked (other : name ≠ "SecurityError")
    (absent : ∀ mark ∈ marks, ¬ mark.1.toList <:+: message.toList) :
    kindByShape name message = ErrorKind.unknown := by
  have missing :
      (marks.find? fun mark =>
        Text.contains mark.1.toList message.toList) = none := by
    refine List.find?_eq_none.mpr fun mark member => ?_
    rw [Text.contains_iff_infix]
    exact absent mark member
  rw [kindByShape_eq_find? other, missing]
  rfl

end Shapes

theorem classify_of_obscure {fault : Fault} (obscure : fault.Obscure) :
    fault.classify =
      Failure.ofKind (kindByShape fault.name fault.message) := by
  obtain ⟨kept, silent⟩ := obscure
  cases fault with
  | declined name message => exact absurd trivial kept
  | rejected name cause => exact absurd trivial kept
  | resolver name trouble message cause =>
      cases trouble with
      | unspecified => rfl
      | _ => cases silent
  | _ => rfl

theorem classify_of_trouble? {fault : Fault} {trouble : Trouble}
    (troubled : fault.trouble? = some trouble) :
    fault.classify = Failure.ofKind trouble.kind := by
  cases fault with
  | resolver name reported message cause =>
      cases reported with
      | unspecified => cases troubled
      | _ =>
          obtain rfl := Option.some.inj troubled
          rfl
  | _ => cases troubled

theorem classified_classify (fault : Fault) :
    fault.Classified fault.classify where
  turnedAway turned := by
    cases fault with
    | declined name message => exact ⟨rfl, rfl⟩
    | rejected name cause => exact ⟨rfl, rfl⟩
    | _ => exact turned.elim
  troubled _ troubled := classify_of_trouble? troubled
  named obscure security := by
    rw [classify_of_obscure obscure, security, kindByShape_of_name]
  marked obscure other _ _ _ _ partition absent present := by
    rw [classify_of_obscure obscure,
      kindByShape_of_mark other partition absent present]
  unmarked obscure other absent := by
    rw [classify_of_obscure obscure, kindByShape_of_unmarked other absent]

/-- A message mentions a first of the marks, or none of them. -/
theorem first_mark_cases (fault : Fault) (items : List (String × ErrorKind)) :
    (∃ before mark kind others, items = before ++ (mark, kind) :: others ∧
        (∀ earlier ∈ before, ¬ fault.Mentions earlier.1) ∧
          fault.Mentions mark) ∨
      ∀ item ∈ items, ¬ fault.Mentions item.1 := by
  induction items with
  | nil => exact Or.inr (List.forall_mem_nil _)
  | cons first rest inductionHypothesis =>
      by_cases mentioned : fault.Mentions first.1
      · exact Or.inl ⟨[], first.1, first.2, rest, rfl,
          List.forall_mem_nil _, mentioned⟩
      · rcases inductionHypothesis with
          ⟨before, mark, kind, others, rfl, absent, present⟩ | absent
        · exact Or.inl ⟨first :: before, mark, kind, others, rfl,
            List.forall_mem_cons.mpr ⟨mentioned, absent⟩, present⟩
        · exact Or.inr (List.forall_mem_cons.mpr ⟨mentioned, absent⟩)

/-- There is one report that is due. -/
theorem Classified.unique {fault : Fault} {failure other : Failure}
    (classified : fault.Classified failure)
    (classified' : fault.Classified other) : failure = other := by
  by_cases turned : fault.TurnsAway
  · obtain ⟨kind, message⟩ := classified.turnedAway turned
    obtain ⟨kind', message'⟩ := classified'.turnedAway turned
    have sameKind : failure.kind = other.kind :=
      Option.some.inj (kind.symm.trans kind')
    have sameMessage : failure.message = other.message :=
      message.trans message'.symm
    cases failure
    cases other
    subst sameKind sameMessage
    rfl
  · cases troubled : fault.trouble? with
    | some trouble =>
        rw [classified.troubled trouble troubled,
          classified'.troubled trouble troubled]
    | none =>
        have obscure : fault.Obscure := ⟨turned, troubled⟩
        by_cases security : fault.name = "SecurityError"
        · rw [classified.named obscure security,
            classified'.named obscure security]
        · rcases fault.first_mark_cases marks with
            ⟨before, mark, kind, others, partition, absent, present⟩ | absent
          · rw [classified.marked obscure security _ _ _ _ partition absent
                present,
              classified'.marked obscure security _ _ _ _ partition absent
                present]
          · rw [classified.unmarked obscure security absent,
              classified'.unmarked obscure security absent]

theorem classify_eq_iff (fault : Fault) (failure : Failure) :
    fault.classify = failure ↔ fault.Classified failure := by
  constructor
  · rintro rfl
    exact fault.classified_classify
  · intro classified
    exact fault.classified_classify.unique classified

/-- A message that mentions two marks. -/
example :
    (foreign "ValueError" "getComputedStyle: no DOM here").classify =
      Failure.ofKind ErrorKind.contextConstruction := by
  decide

end Fault

end UtilityCss

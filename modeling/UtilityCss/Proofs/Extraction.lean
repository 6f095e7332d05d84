import UtilityCss.Proofs.Desk.Caching

/-!
# A resolver during one extraction

What a resolver is asked can be taken down without changing what it does.  The
record shows how a resolver is used: a context that was made is asked for its
styles and ended, once and in this order, and a context that was not made is
never mentioned.  The end of a context has no say in the outcome.
-/

namespace UtilityCss

namespace Resolver

variable {σ : Type} (resolver : Resolver σ)

/-- The resolver that also takes down everything it is asked. -/
def recording : Resolver (σ × List Request) where
  create record classes :=
    let (outcome, next) := resolver.create record.1 classes
    (outcome, next, record.2 ++ [Request.create classes])
  compute record context :=
    let (outcome, next) := resolver.compute record.1 context
    (outcome, next, record.2 ++ [Request.compute context])
  destroy record context :=
    let (outcome, next) := resolver.destroy record.1 context
    (outcome, next, record.2 ++ [Request.destroy context])

/-- What the resolver is asked in an extraction. -/
def asked (state : σ) (classes : String) : List Request :=
  (resolver.recording.extract (state, []) classes).2.2

section Extracting

variable {resolver} {state next : σ} {classes : String}

theorem extract_of_refused {fault : Fault}
    (refused : resolver.create state classes = (Except.error fault, next)) :
    resolver.extract state classes =
      (Except.error fault.leavingSeries, next) := by
  rw [extract, refused]

theorem extract_of_created {context : StylingContext}
    (created : resolver.create state classes = (Except.ok context, next)) :
    resolver.extract state classes =
      ((resolver.compute next context).1,
        (resolver.destroy (resolver.compute next context).2 context).2) := by
  rw [extract, created]

theorem recording_create (record : List Request) :
    resolver.recording.create (state, record) classes =
      ((resolver.create state classes).1, (resolver.create state classes).2,
        record ++ [Request.create classes]) :=
  rfl

theorem extract_recording_of_refused {fault : Fault}
    (refused : resolver.create state classes = (Except.error fault, next))
    (record : List Request) :
    resolver.recording.extract (state, record) classes =
      (Except.error fault.leavingSeries, next,
        record ++ [Request.create classes]) := by
  have taken :
      resolver.recording.create (state, record) classes =
        (Except.error fault, next, record ++ [Request.create classes]) := by
    rw [recording_create, refused]
  exact extract_of_refused taken

theorem extract_recording_of_created {context : StylingContext}
    (created : resolver.create state classes = (Except.ok context, next))
    (record : List Request) :
    resolver.recording.extract (state, record) classes =
      ((resolver.compute next context).1,
        (resolver.destroy (resolver.compute next context).2 context).2,
        record ++
          [Request.create classes, Request.compute context,
            Request.destroy context]) := by
  have taken :
      resolver.recording.create (state, record) classes =
        (Except.ok context, next, record ++ [Request.create classes]) := by
    rw [recording_create, created]
  rw [extract_of_created taken]
  simp only [recording, List.append_assoc, List.cons_append, List.nil_append]

end Extracting

/-- How an extraction goes. -/
structure Extracts (state : σ) (classes : String) : Prop where
  /-- The record changes nothing. -/
  recorded : resolver.recording.extract (state, []) classes =
    ((resolver.extract state classes).1, (resolver.extract state classes).2,
      resolver.asked state classes)
  refused : ∀ fault, (resolver.create state classes).1 = Except.error fault →
    fault.isSignal = false →
      (resolver.extract state classes).1 = Except.error fault ∧
        resolver.asked state classes = [Request.create classes]
  /-- The outcome is that of the styles, however the context ends. -/
  created : ∀ context,
    (resolver.create state classes).1 = Except.ok context →
      (resolver.extract state classes).1 =
          (resolver.compute (resolver.create state classes).2 context).1 ∧
        resolver.asked state classes =
          [Request.create classes, Request.compute context,
            Request.destroy context]

theorem extracts (state : σ) (classes : String) :
    resolver.Extracts state classes := by
  rcases creation : resolver.create state classes with
    ⟨fault | context, next⟩
  · have outcome := extract_of_refused creation
    have record := extract_recording_of_refused creation []
    refine ⟨?_, fun other same genuine => ?_, fun context same => ?_⟩
    · rw [asked, record, outcome]
    · rw [creation] at same
      obtain rfl := Except.error.inj same
      rw [asked, record, outcome, Fault.leavingSeries_of_not_signal genuine]
      exact ⟨rfl, rfl⟩
    · rw [creation] at same
      cases same
  · have outcome := extract_of_created creation
    have record := extract_recording_of_created creation []
    refine ⟨?_, fun fault same => ?_, fun other same => ?_⟩
    · rw [asked, record, outcome]
    · rw [creation] at same
      cases same
    · rw [creation] at same ⊢
      obtain rfl := Except.ok.inj same
      rw [asked, record, outcome]
      exact ⟨rfl, rfl⟩

/-- A context whose end fails as well. -/
example :
    let resolver : Resolver Unit :=
      ⟨fun _ classes => (Except.ok ⟨0, classes, Handle.missing⟩, ()),
        fun _ _ => (Except.error (Fault.foreign "ValueError" "no styles"), ()),
        fun _ _ => (Except.error (Fault.foreign "OSError" "gone"), ())⟩
    (resolver.recording.extract ((), []) "p-4") =
      (Except.error (Fault.foreign "ValueError" "no styles"), (),
        [Request.create "p-4",
          Request.compute ⟨0, "p-4", Handle.missing⟩,
          Request.destroy ⟨0, "p-4", Handle.missing⟩]) :=
  rfl

end Resolver

namespace Processor

variable {σ : Type}

/-- The processor has to resolve the classes of the text. -/
structure Lacks (processor : Processor) (text : String) : Prop where
  accepted : Accepted processor.settings.maxInputLength text
  absent : keyOf text ∉ processor.cache.keys

/-- How a conversion reports what happens during it. -/
structure Reports (processor : Processor) (resolver : Resolver σ) (state : σ)
    (text : String) : Prop where
  rejected : ∀ cause, ClassText.isBlankText text.toList = false →
    Guard.check processor.settings.maxInputLength text.toList =
        Except.error cause →
      (processor.convert resolver state text).1 =
        ⟨"", some (Fault.ofRejection cause).classify, none⟩
  failed : processor.Lacks text → ∀ fault,
    (resolver.extract state (classesOf text)).1 = Except.error fault →
      (processor.convert resolver state text).1 =
        ⟨"", some fault.classify, none⟩
  resolved : processor.Lacks text → ∀ styles,
    (resolver.extract state (classesOf text)).1 = Except.ok styles →
      (processor.convert resolver state text).1 =
        Conversion.ofStyles (classesOf text) styles
  /-- The resolver is asked what one extraction asks. -/
  asks : processor.Lacks text →
    (processor.convert resolver.recording (state, []) text).2.2.2 =
      resolver.asked state (classesOf text)
  /-- No other conversion asks the resolver for anything. -/
  spares : ¬ processor.Lacks text →
    (processor.convert resolver.recording (state, []) text).2.2 = (state, [])

theorem convert_of_lacks {processor : Processor} {text : String}
    (lacks : processor.Lacks text) (resolver : Resolver σ) (state : σ) :
    (processor.convert resolver state text).1 =
        (closingResult (Job.ofText text)
          (resolver.extract state (classesOf text)).1).1 ∧
      (processor.convert resolver state text).2.2 =
        (resolver.extract state (classesOf text)).2 := by
  have missed := (RecencyCache.peek?_eq_none_iff _ _).mpr lacks.absent
  rw [convert, processor.opening_of_miss lacks.accepted missed]
  exact ⟨rfl, rfl⟩

/-- A conversion that asks for nothing is settled when it opens. -/
theorem settled_of_not_lacks {processor : Processor} {text : String}
    (spared : ¬ processor.Lacks text) :
    ∃ result, (processor.opening text).1 = Opening.settled result := by
  have opens := processor.opens text
  generalize processor.opening text = opened at opens
  cases opens with
  | blank empty => exact ⟨_, rfl⟩
  | rejected cause filled failed => exact ⟨_, rfl⟩
  | hit found accepted hit => exact ⟨found, rfl⟩
  | miss accepted miss =>
      have absent := (RecencyCache.peek?_eq_none_iff _ _).mp miss
      exact absurd ⟨accepted, absent⟩ spared

theorem convert_of_settled {processor : Processor} {text : String}
    {result : Conversion}
    (settled : (processor.opening text).1 = Opening.settled result)
    (resolver : Resolver σ) (state : σ) :
    (processor.convert resolver state text).1 = result ∧
      (processor.convert resolver state text).2.2 = state := by
  rw [convert]
  rcases opening : processor.opening text with ⟨other | job, phases, next⟩
  · rw [opening] at settled
    obtain rfl := Opening.settled.inj settled
    exact ⟨rfl, rfl⟩
  · rw [opening] at settled
    cases settled

theorem reports (processor : Processor) (resolver : Resolver σ) (state : σ)
    (text : String) : processor.Reports resolver state text where
  rejected cause filled failed := by
    have opening := processor.opening_of_rejected filled failed
    exact (convert_of_settled (congrArg Prod.fst opening) resolver state).1
  failed lacks fault broken := by
    rw [(convert_of_lacks lacks resolver state).1, broken]
    rfl
  resolved lacks styles found := by
    rw [(convert_of_lacks lacks resolver state).1, found]
    rfl
  asks lacks := by
    rw [(convert_of_lacks lacks resolver.recording (state, [])).2]
    rfl
  spares spared := by
    obtain ⟨result, settled⟩ := settled_of_not_lacks spared
    exact (convert_of_settled settled resolver.recording (state, [])).2

end Processor

end UtilityCss

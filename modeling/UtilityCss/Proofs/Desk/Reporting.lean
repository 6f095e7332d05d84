import UtilityCss.Proofs.Desk.Story
import UtilityCss.Proofs.Extraction
import UtilityCss.Proofs.Fault

/-!
# Extractions that overlap

At a desk the requests of one extraction come between those of others, and the
replies come when they like.  A call still asks its resolver for what a single
extraction asks, and no fault leaves it: a fault at the making of a context or at
its styles is reported in the answer, a fault at the end of a context nowhere.
-/

namespace UtilityCss

namespace Desk

section Exchanging

variable {classes : String} {extraction : Extraction}
variable {requests : List Request} {replies : List Reply}
variable (exchange : Exchange classes extraction requests replies)

include exchange

theorem Exchange.of_refused {fault : Fault}
    (heard : Reply.created (Except.error fault) ∈ replies) :
    extraction = Extraction.ended (Except.error fault.leavingSeries) ∧
      requests = [Request.create classes] := by
  cases exchange with
  | refused other =>
      have same := List.mem_singleton.mp heard
      obtain rfl := Except.error.inj (Reply.created.inj same)
      exact ⟨rfl, rfl⟩
  | _ => simp at heard

/-- An extraction with a context has asked for its styles, and for its end once
it had an outcome. -/
theorem Exchange.of_created {context : StylingContext}
    (heard : Reply.created (Except.ok context) ∈ replies) :
    requests = [Request.create classes, Request.compute context] ∧
        extraction = Extraction.computing context ∨
      requests =
          [Request.create classes, Request.compute context,
            Request.destroy context] ∧
        ∀ outcome, extraction = Extraction.ended outcome →
          ∃ parting, replies =
            [Reply.created (Except.ok context), Reply.computed outcome,
              Reply.destroyed parting] := by
  cases exchange with
  | creating => cases heard
  | refused fault => simp at heard
  | computing other =>
      obtain rfl : context = other := by simpa using heard
      exact Or.inl ⟨rfl, rfl⟩
  | destroying other outcome =>
      obtain rfl : context = other := by simpa using heard
      exact Or.inr ⟨rfl, fun _ finished => by cases finished⟩
  | ended other outcome parting =>
      obtain rfl : context = other := by simpa using heard
      refine Or.inr ⟨rfl, fun result same => ?_⟩
      obtain rfl := Extraction.ended.inj same
      exact ⟨parting, rfl⟩

end Exchanging

/-- What a call asks its resolver, and how it answers. -/
structure Extracted (settings : Settings) (actions : List Action) (call : Nat)
    (entry : Call) : Prop where
  refused : ∀ fault,
    Reply.created (Except.error fault) ∈
        (trail settings actions call).replies →
      fault.isSignal = false →
        (trail settings actions call).requests =
            [Request.create (classesOf entry.text)] ∧
          ∃ wanted, entry.progress =
            Progress.ended
              (Processor.commit wanted ⟨"", some fault.classify, none⟩)
  /-- A context is asked for its styles at once, and ended after them. -/
  created : ∀ context,
    Reply.created (Except.ok context) ∈
        (trail settings actions call).replies →
      (trail settings actions call).requests =
          [Request.create (classesOf entry.text), Request.compute context] ∨
        (trail settings actions call).requests =
          [Request.create (classesOf entry.text), Request.compute context,
            Request.destroy context]
  /-- The answer is that of the styles, however the context ended. -/
  ended : ∀ context answer,
    Reply.created (Except.ok context) ∈
        (trail settings actions call).replies →
      entry.progress = Progress.ended answer →
        ∃ outcome parting wanted,
          (trail settings actions call).requests =
              [Request.create (classesOf entry.text),
                Request.compute context, Request.destroy context] ∧
            (trail settings actions call).replies =
              [Reply.created (Except.ok context), Reply.computed outcome,
                Reply.destroyed parting] ∧
            answer =
              Processor.commit wanted
                (Processor.closingResult (Job.ofText entry.text) outcome).1

theorem extracted_after {settings : Settings} {actions : List Action}
    {call : Nat} {entry : Call}
    (here : (after settings actions).calls[call]? = some entry) :
    Extracted settings actions call entry := by
  have story := story_after settings actions call
  have underway := underway_after settings actions call
  rw [here] at story underway
  generalize seen : trail settings actions call = trace at story
  cases story with
  | @waiting before text token starts missed extraction requests replies
      exchange =>
      have asks := underway text token _ extraction rfl
      refine ⟨fun fault heard => ?_, fun context heard => ?_,
        fun context answer _ finished => by cases finished⟩
      · rw [seen] at heard
        obtain ⟨finished, _⟩ := exchange.of_refused heard
        subst finished
        exact absurd rfl asks
      · rw [seen] at heard ⊢
        rcases exchange.of_created heard with ⟨asked, _⟩ | ⟨asked, _⟩
        · exact Or.inl asked
        · exact Or.inr asked
  | @closed before text token wanted starts missed outcome requests replies
      exchange =>
      refine ⟨fun fault heard genuine => ?_, fun context heard => ?_,
        fun context answer heard finished => ?_⟩
      · rw [seen] at heard ⊢
        obtain ⟨same, asked⟩ := exchange.of_refused heard
        rw [Fault.leavingSeries_of_not_signal genuine] at same
        obtain rfl := Extraction.ended.inj same
        exact ⟨asked, wanted, rfl⟩
      · rw [seen] at heard ⊢
        rcases exchange.of_created heard with ⟨asked, _⟩ | ⟨asked, _⟩
        · exact Or.inl asked
        · exact Or.inr asked
      · rw [seen] at heard ⊢
        rcases exchange.of_created heard with ⟨_, open'⟩ | ⟨asked, replied⟩
        · cases open'
        · obtain ⟨parting, replied⟩ := replied outcome rfl
          obtain rfl := Progress.ended.inj finished
          exact ⟨outcome, parting, wanted, asked, replied, rfl⟩
  | _ =>
      -- the call has made no request
      refine ⟨fun _ heard => ?_, fun _ heard => ?_, fun _ _ heard => ?_⟩
      all_goals
        rw [seen] at heard
        cases heard

end Desk

/-- How a resolver is used, and how what happens to it is reported. -/
structure Resolver.Reported {σ : Type} (resolver : Resolver σ) : Prop where
  extracts : ∀ state classes, resolver.Extracts state classes
  reports : ∀ (processor : Processor) state text,
    processor.Reports resolver state text
  classified : ∀ (fault : Fault) failure,
    fault.classify = failure ↔ fault.Classified failure
  /-- Other calls in between make no difference. -/
  overlapping : ∀ settings actions call entry,
    (Desk.after settings actions).calls[call]? = some entry →
      Desk.Extracted settings actions call entry

end UtilityCss

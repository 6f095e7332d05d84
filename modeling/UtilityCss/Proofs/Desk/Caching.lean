import Mathlib.Data.List.Induction
import UtilityCss.Proofs.Conversion
import UtilityCss.Proofs.Desk.Run

/-!
# The cache of a desk cannot be seen

The resolver of a desk may find the same styles for a class text whenever it is
asked, or fail.  Then a call that gives a result gives what its text gives alone,
or reports a fault that the resolver has raised during this very call.  How calls
overlap, which of them are superseded, and what was remembered and forgotten
meanwhile makes no difference.
-/

namespace UtilityCss

/-! ## Replies of a resolver with fixed styles -/

/-- The signal that a call or a series is over, which is no fault of a
resolver. -/
def Fault.isSignal : Fault → Bool
  | Fault.foreign name _ =>
      name == "StopIteration" || name == "StopAsyncIteration"
  | _ => false

theorem Fault.leavingSeries_of_not_signal {fault : Fault}
    (genuine : fault.isSignal = false) : fault.leavingSeries = fault := by
  unfold leavingSeries
  split
  · simp [isSignal] at genuine
  · rfl

/-- The fault that keeps a resolver from finding styles.  A fault at the end of
a context is none. -/
def Reply.fault? : Reply → Option Fault
  | Reply.created (Except.error fault) => some fault
  | Reply.computed (Except.error fault) => some fault
  | _ => none

/-- A reply for a class text that finds its fixed styles or raises a fault. -/
structure Reply.Follows (styles : String → StyleValues) (classes : String)
    (reply : Reply) : Prop where
  found : ∀ values, reply = Reply.computed (Except.ok values) →
    values = styles classes
  genuine : ∀ fault, reply.fault? = some fault → fault.isSignal = false

namespace Desk

/-- A call waits for a reply of this kind. -/
def Awaits (desk : Desk) (call : Nat) (reply : Reply) : Prop :=
  ∃ text token job extraction later,
    desk.calls[call]? =
        some ⟨text, token, Progress.extracting job extraction⟩ ∧
      extraction.take? reply = some later

/-- During the actions the resolver has raised a fault in reply to a call. -/
def Raised (settings : Settings) (actions : List Action) (call : Nat)
    (fault : Fault) : Prop :=
  ∃ before reply rest,
    actions = before ++ Action.reply call reply :: rest ∧
      (after settings before).Awaits call reply ∧
      reply.fault? = some fault

/-- The reply that an action brings to a call, if the call waits for it, follows
the styles for the class text that the call resolves. -/
def Heeds (desk : Desk) (styles : String → StyleValues) (action : Action) :
    Prop :=
  ∀ call reply text token job extraction later,
    action = Action.reply call reply →
      desk.calls[call]? =
          some ⟨text, token, Progress.extracting job extraction⟩ →
        extraction.take? reply = some later →
          reply.Follows styles job.classes

/-- All replies that calls wait for follow the same styles. -/
def Follows (settings : Settings) (styles : String → StyleValues)
    (actions : List Action) : Prop :=
  ∀ before action rest, actions = before ++ action :: rest →
    (after settings before).Heeds styles action

theorem Raised.concat {settings : Settings} {actions : List Action}
    {call : Nat} {fault : Fault} (raised : Raised settings actions call fault)
    (action : Action) : Raised settings (actions ++ [action]) call fault := by
  obtain ⟨before, reply, rest, rfl, awaits, faulty⟩ := raised
  exact ⟨before, reply, rest ++ [action], by simp, awaits, faulty⟩

theorem Follows.of_concat {settings : Settings}
    {styles : String → StyleValues} {actions : List Action} {action : Action}
    (follows : Follows settings styles (actions ++ [action])) :
    Follows settings styles actions := by
  intro before taken rest partition
  exact follows before taken (rest ++ [action]) (by simp [partition])

/-! ## What explains a call -/

/-- The outcome of an extraction is the fixed styles or a fault that was
raised. -/
def Sourced (styles : String → StyleValues) (raised : Fault → Prop)
    (classes : String) : Except Fault StyleValues → Prop
  | Except.ok values => values = styles classes
  | Except.error fault => raised fault

/-- Where an extraction stands agrees with what was replied to it. -/
def Pending (styles : String → StyleValues) (raised : Fault → Prop)
    (classes : String) : Extraction → Prop
  | Extraction.destroying _ outcome => Sourced styles raised classes outcome
  | Extraction.ended outcome => Sourced styles raised classes outcome
  | _ => True

/-- A result is what the text gives alone, or reports a fault that was
raised. -/
def Explained (limit : Int) (styles : String → StyleValues)
    (raised : Fault → Prop) (text : String) (result : Conversion) : Prop :=
  (∃ fault, raised fault ∧ result = Conversion.failed fault) ∨
    result = Conversion.alone limit styles text

/-- Where a call stands agrees with its text and with what was replied to
it. -/
def Consistent (limit : Int) (styles : String → StyleValues)
    (raised : Fault → Prop) (text : String) : Progress → Prop
  | Progress.asleep => True
  | Progress.extracting job extraction =>
      Accepted limit text ∧ job = Job.ofText text ∧
        Pending styles raised job.classes extraction
  | Progress.ended answer =>
      ∀ result, answer = some result →
        Explained limit styles raised text result

section Growing

variable {limit : Int} {styles : String → StyleValues}
variable {raised raised' : Fault → Prop}

theorem Sourced.mono (more : ∀ fault, raised fault → raised' fault)
    {classes : String} {outcome : Except Fault StyleValues}
    (sourced : Sourced styles raised classes outcome) :
    Sourced styles raised' classes outcome := by
  cases outcome with
  | ok values => exact sourced
  | error fault => exact more fault sourced

theorem Pending.mono (more : ∀ fault, raised fault → raised' fault)
    {classes : String} {extraction : Extraction}
    (pending : Pending styles raised classes extraction) :
    Pending styles raised' classes extraction := by
  cases extraction with
  | creating asked => trivial
  | computing context => trivial
  | destroying context outcome => exact Sourced.mono more pending
  | ended outcome => exact Sourced.mono more pending

theorem Explained.mono (more : ∀ fault, raised fault → raised' fault)
    {text : String} {result : Conversion}
    (explained : Explained limit styles raised text result) :
    Explained limit styles raised' text result := by
  rcases explained with ⟨fault, heard, equality⟩ | alone
  · exact Or.inl ⟨fault, more fault heard, equality⟩
  · exact Or.inr alone

theorem Consistent.mono (more : ∀ fault, raised fault → raised' fault)
    {text : String} {progress : Progress}
    (consistent : Consistent limit styles raised text progress) :
    Consistent limit styles raised' text progress := by
  cases progress with
  | asleep => trivial
  | extracting job extraction =>
      obtain ⟨accepted, jobEq, pending⟩ := consistent
      exact ⟨accepted, jobEq, Pending.mono more pending⟩
  | ended answer =>
      intro result given
      exact Explained.mono more (consistent result given)

end Growing

theorem Sourced.explained {limit : Int} {styles : String → StyleValues}
    {raised : Fault → Prop} {text : String}
    {outcome : Except Fault StyleValues} (accepted : Accepted limit text)
    (sourced : Sourced styles raised (classesOf text) outcome) :
    Explained limit styles raised text
      (Processor.closingResult (Job.ofText text) outcome).1 := by
  cases outcome with
  | error fault => exact Or.inl ⟨fault, sourced, rfl⟩
  | ok values =>
      right
      rw [Conversion.alone_of_accepted styles accepted, ← sourced]
      rfl

theorem Pending.take {styles : String → StyleValues} {raised : Fault → Prop}
    {classes : String} {extraction later : Extraction} {reply : Reply}
    (pending : Pending styles raised classes extraction)
    (follows : reply.Follows styles classes)
    (heard : ∀ fault, reply.fault? = some fault → raised fault)
    (taken : extraction.take? reply = some later) :
    Pending styles raised classes later := by
  cases extraction with
  | creating asked =>
      cases reply with
      | created outcome =>
          cases outcome with
          | ok context =>
              obtain rfl := Option.some.inj taken
              trivial
          | error fault =>
              obtain rfl := Option.some.inj taken
              have kept := Fault.leavingSeries_of_not_signal
                (follows.genuine fault rfl)
              rw [kept]
              exact heard fault rfl
      | _ => cases taken
  | computing context =>
      cases reply with
      | computed outcome =>
          obtain rfl := Option.some.inj taken
          cases outcome with
          | ok values => exact follows.found values rfl
          | error fault => exact heard fault rfl
      | _ => cases taken
  | destroying context outcome =>
      cases reply with
      | destroyed outcome' =>
          obtain rfl := Option.some.inj taken
          exact pending
      | _ => cases taken
  | ended outcome => cases reply <;> cases taken

/-! ## The invariant -/

/-- The memory of a desk is right, and every call agrees with its text and
with the faults raised during it. -/
structure Transparent (settings : Settings) (styles : String → StyleValues)
    (raised : Nat → Fault → Prop) (desk : Desk) : Prop where
  fixed : desk.processor.settings = settings
  remembers : desk.processor.Remembers styles
  calls : ∀ call entry, desk.calls[call]? = some entry →
    Consistent settings.maxInputLength styles (raised call) entry.text
      entry.progress

section Invariant

variable {settings : Settings} {styles : String → StyleValues}
variable {raised : Nat → Fault → Prop} {desk next : Desk} {action : Action}

theorem transparent_create (settings : Settings)
    (styles : String → StyleValues) (raised : Nat → Fault → Prop) :
    Transparent settings styles raised (create settings) where
  fixed := rfl
  remembers := Processor.remembers_create settings styles
  calls := fun call entry here => by simp [create] at here

theorem Transparent.received
    (transparent : Transparent settings styles raised desk)
    (action : Action) :
    Transparent settings styles raised (desk.received action) := by
  refine ⟨?_, ?_, fun call entry here => ?_⟩
  · rw [← transparent.fixed]
    cases action <;> rfl
  · cases action with
    | reset => exact Processor.remembers_reset _ styles
    | _ => exact transparent.remembers
  · rcases received_call_cases here with old | ⟨_, arrives⟩
    · exact transparent.calls call entry old
    · rw [asleep_of_arrival? arrives]
      trivial

theorem Transparent.opened
    (transparent : Transparent settings styles raised desk) (call : Nat)
    (text : String) (token : Option Token) :
    Consistent settings.maxInputLength styles (raised call) text
      (desk.opened text token) := by
  rw [Desk.opened]
  rcases transparent.remembers.opening_cases text with
    settled | ⟨accepted, missed⟩
  · rw [settled, transparent.fixed]
    intro result given
    rw [Processor.commit] at given
    split at given
    · cases given
      exact Or.inr rfl
    · cases given
  · rw [missed]
    rw [transparent.fixed] at accepted
    exact ⟨accepted, rfl, trivial⟩

theorem Transparent.continued
    (transparent : Transparent settings styles raised desk) {call : Nat}
    {text : String} {token : Option Token} {job : Job}
    {extraction later : Extraction} {reply : Reply}
    (waiting :
      desk.calls[call]? =
        some ⟨text, token, Progress.extracting job extraction⟩)
    (follows : reply.Follows styles job.classes)
    (heard : ∀ fault, reply.fault? = some fault → raised call fault)
    (taken : extraction.take? reply = some later) :
    Consistent settings.maxInputLength styles (raised call) text
        (desk.continued token job later) ∧
      (desk.closed token job later).Remembers styles ∧
      (desk.closed token job later).settings = settings := by
  obtain ⟨accepted, jobEq, pending⟩ :=
    transparent.calls call _ waiting
  have after := Pending.take pending follows heard taken
  cases later with
  | ended outcome =>
      have jobText : job = Job.ofText text := jobEq
      subst job
      refine ⟨fun result given => ?_, ?_, ?_⟩
      · rw [Processor.commit] at given
        split at given
        · cases given
          exact Sourced.explained accepted after
        · cases given
      · refine transparent.remembers.closing (fun values found => ?_) _
        subst found
        exact after
      · rw [closed, Processor.closing_settings, transparent.fixed]
  | _ =>
      exact ⟨⟨accepted, jobEq, after⟩, transparent.remembers,
        transparent.fixed⟩

theorem Transparent.setProgress
    (transparent : Transparent settings styles raised desk)
    {processor : Processor} (fixed : processor.settings = settings)
    (remembers : processor.Remembers styles) {call : Nat} {text : String}
    {token : Option Token} {before progress : Progress}
    (here : desk.calls[call]? = some ⟨text, token, before⟩)
    (consistent :
      Consistent settings.maxInputLength styles (raised call) text progress) :
    Transparent settings styles raised
      ({ desk with processor := processor }.setProgress call progress) := by
  refine ⟨fixed, remembers, fun other entry there => ?_⟩
  rcases setProgress_call_cases here there with ⟨rfl, rfl⟩ | ⟨_, old⟩
  · exact consistent
  · exact transparent.calls other entry old

/-- A turn keeps the invariant if the reply that is taken, if any, follows the
styles. -/
theorem Transparent.turn
    (transparent : Transparent settings styles raised desk)
    (turn : Turn desk action next) (heeds : desk.Heeds styles action)
    (heard : ∀ call reply fault, action = Action.reply call reply →
      desk.Awaits call reply → reply.fault? = some fault →
        raised call fault) :
    Transparent settings styles raised next := by
  cases turn with
  | rest => exact transparent
  | @opening call text token asleep =>
      have fixed :=
        (desk.processor.opening_settings text).trans transparent.fixed
      exact transparent.setProgress fixed (transparent.remembers.opening text)
        asleep (transparent.opened call text token)
  | dropping asleep unwanted =>
      exact transparent.setProgress transparent.fixed transparent.remembers
        asleep (fun result given => by cases given)
  | @continuing call text token job extraction later reply answered waiting
      taken =>
      have awaits : desk.Awaits call reply :=
        ⟨text, token, job, extraction, later, waiting, taken⟩
      obtain ⟨consistent, remembers, fixed⟩ :=
        transparent.continued waiting
          (heeds call reply text token job extraction later answered waiting
            taken)
          (fun fault => heard call reply fault answered awaits) taken
      exact transparent.setProgress fixed remembers waiting consistent

theorem Transparent.step
    (transparent : Transparent settings styles raised desk)
    (heeds : (desk.received action).Heeds styles action)
    (heard : ∀ call reply fault, action = Action.reply call reply →
      (desk.received action).Awaits call reply →
        reply.fault? = some fault → raised call fault) :
    Transparent settings styles raised (desk.step action).1 :=
  (transparent.received action).turn (turn_step desk action) heeds heard

end Invariant

theorem Transparent.mono {settings : Settings} {styles : String → StyleValues}
    {raised raised' : Nat → Fault → Prop} {desk : Desk}
    (more : ∀ call fault, raised call fault → raised' call fault)
    (transparent : Transparent settings styles raised desk) :
    Transparent settings styles raised' desk :=
  ⟨transparent.fixed, transparent.remembers, fun call entry here =>
    (transparent.calls call entry here).mono (more call)⟩

theorem transparent_after (settings : Settings)
    (styles : String → StyleValues) (actions : List Action)
    (follows : Follows settings styles actions) :
    Transparent settings styles (Raised settings actions)
      (after settings actions) := by
  induction actions using List.reverseRecOn with
  | nil => exact transparent_create settings styles _
  | append_singleton actions action inductionHypothesis =>
      have before :=
        (inductionHypothesis follows.of_concat).mono
          (fun _ _ raised => raised.concat action)
      rw [after_concat]
      refine before.step ?_ ?_
      · rintro call reply text token job extraction later rfl
        exact follows actions _ [] rfl call reply text token job extraction
          later rfl
      · rintro call reply fault rfl awaits faulty
        exact ⟨actions, reply, [], rfl, awaits, faulty⟩

/-- Whatever happens at a desk whose resolver finds the same styles for a class
text whenever it finds any, a result that a call gives is what a processor with
an empty cache gives for its text, or reports a fault that the resolver raised
during this call. -/
theorem result_eq_alone_or_raised (settings : Settings)
    (styles : String → StyleValues) (actions : List Action)
    (follows : Follows settings styles actions) {call : Nat} {entry : Call}
    {result : Conversion}
    (made : (after settings actions).calls[call]? = some entry)
    (given : entry.progress = Progress.ended (some result)) :
    (∃ fault, Raised settings actions call fault ∧
        result = Conversion.failed fault) ∨
      (result =
          Conversion.alone settings.maxInputLength styles entry.text ∧
        result =
          ((Processor.create settings).convert (Resolver.ofStyles styles) ()
            entry.text).1) := by
  have consistent :=
    (transparent_after settings styles actions follows).calls call entry made
  rw [given] at consistent
  rcases consistent result rfl with raised | alone
  · exact Or.inl raised
  · refine Or.inr ⟨alone, ?_⟩
    rw [Processor.convert_create, alone]

def padded : StyleValues := ⟨[("padding", "16px")]⟩

/-- A conversion, and another with the same key while it is remembered. -/
def repeating : List Action :=
  [Action.convert "p-4" none,
    Action.reply 0 (Reply.created (Except.ok ⟨0, "p-4", Handle.missing⟩)),
    Action.reply 0 (Reply.computed (Except.ok padded)),
    Action.reply 0 (Reply.destroyed (Except.ok ())),
    Action.convert " p-4 " none]

theorem follows_repeating (settings : Settings) :
    Follows settings (fun _ => padded) repeating := by
  rintro before action rest partition call reply text token job extraction
    later rfl _ _
  have member : Action.reply call reply ∈ repeating :=
    partition ▸ List.mem_append_right before List.mem_cons_self
  simp only [repeating, List.mem_cons, Action.reply.injEq, List.not_mem_nil,
    reduceCtorEq, false_or, or_false] at member
  rcases member with ⟨_, rfl⟩ | ⟨_, rfl⟩ | ⟨_, rfl⟩
  · exact ⟨fun values same => (by cases same), fun fault same => by cases same⟩
  · exact ⟨fun values same => (by cases same; rfl),
      fun fault same => by cases same⟩
  · exact ⟨fun values same => (by cases same), fun fault same => by cases same⟩

/-- What is remembered of a text serves the same text between blanks. -/
theorem result_eq_alone_or_raised_remembered :
    Follows Settings.usual (fun _ => padded) repeating ∧
      (after Settings.usual repeating).calls[1]? =
        some ⟨" p-4 ", none,
          Progress.ended (some (Conversion.ofStyles "p-4" padded))⟩ ∧
      Conversion.ofStyles "p-4" padded =
        Conversion.alone Settings.usual.maxInputLength (fun _ => padded)
          " p-4 " := by
  have follows := follows_repeating Settings.usual
  have made :
      (after Settings.usual repeating).calls[1]? =
        some ⟨" p-4 ", none,
          Progress.ended (some (Conversion.ofStyles "p-4" padded))⟩ := rfl
  refine ⟨follows, made, ?_⟩
  rcases result_eq_alone_or_raised Settings.usual (fun _ => padded) repeating
      follows made rfl with ⟨fault, _, failed⟩ | ⟨alone, _⟩
  · have impossible : none = some fault.classify :=
      congrArg Conversion.failure failed
    cases impossible
  · exact alone

end Desk

end UtilityCss

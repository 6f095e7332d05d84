import UtilityCss.Proofs.Resolver.Browser.Watch

/-!
# Errands one after another

When errands do not overlap, one at most waits for the engine, and the line for
its startup stays empty.  Then everything that runs is held at every moment, so
long as no context is asked for while something runs without a page.  Only a
startup that was cut short by a fault which is not the engine's leaves such a
thing behind; the next startup drops it, and no way down reaches it any more.
-/

namespace UtilityCss

open Browser BrowserResolver

namespace Watched

/-! ## Conditions on a run -/

/-- A condition is met by every event of a run. -/
def Throughout (condition : Watched → Event → Prop) :
    Watched → List Event → Prop
  | _, [] => True
  | watched, event :: events =>
      condition watched event ∧
        Throughout condition (watched.step event) events

instance (condition : Watched → Event → Prop)
    [∀ watched event, Decidable (condition watched event)] :
    ∀ watched events, Decidable (Throughout condition watched events)
  | _, [] => isTrue trivial
  | watched, event :: events =>
      have := instDecidableThroughout condition (watched.step event) events
      inferInstanceAs (Decidable (_ ∧ _))

theorem Throughout.append {condition : Watched → Event → Prop}
    {watched : Watched} {first second : List Event}
    (throughout : Throughout condition watched (first ++ second)) :
    Throughout condition watched first ∧
      Throughout condition (watched.run first) second := by
  induction first generalizing watched with
  | nil => exact ⟨trivial, throughout⟩
  | cons event events inductionHypothesis =>
      obtain ⟨here, later⟩ := throughout
      obtain ⟨begun, ended⟩ := inductionHypothesis later
      exact ⟨⟨here, begun⟩, ended⟩

/-- An errand begins only when no other waits for the engine. -/
def OneByOne (watched : Watched) (event : Event) : Prop :=
  event.begins = true → watched.resolver.isResting = true

/-- No context is asked for while something runs without a page. -/
def Unforced (watched : Watched) (event : Event) : Prop :=
  event.asksContext = true →
    ¬ Stranded watched.resolver.holdings watched.running

theorem begins_of_asksContext {event : Event}
    (asks : event.asksContext = true) : event.begins = true := by
  cases event with
  | create classes => rfl
  | _ => cases asks

/-- The event brings no startup a fault that is not the engine's. -/
def spares (watched : Watched) : Event → Bool
  | Event.answer errand (Response.failed fault) =>
      isEngineFault fault ||
        !watched.resolver.errands[errand]?.any Errand.isStarting
  | _ => true

/-- A startup meets no faults but those of the engine. -/
def Sparing (watched : Watched) (event : Event) : Prop :=
  watched.spares event = true

instance (watched : Watched) (event : Event) :
    Decidable (watched.OneByOne event) :=
  inferInstanceAs (Decidable (_ → _))

instance (watched : Watched) (event : Event) :
    Decidable (watched.Sparing event) :=
  inferInstanceAs (Decidable (_ = _))

theorem Sparing.engine {watched : Watched} {number : Nat} {errand : Errand}
    {fault : Fault}
    (sparing :
      watched.Sparing (Event.answer number (Response.failed fault)))
    (here : watched.resolver.errands[number]? = some errand)
    (starts : errand.isStarting = true) : isEngineFault fault = true := by
  rw [Sparing, spares, here, Option.any_some, starts] at sparing
  simpa using sparing

/-! ## One errand at a time -/

/-- An errand has had its turn, and no other waits for the engine. -/
structure InTurn (spared : Prop) (watched : Watched) (number : Nat)
    (errand : Errand) : Prop where
  here : watched.resolver.errands[number]? = some errand
  alone : ∀ other, other ≠ number → watched.resolver.call? other = none
  starter : watched.resolver.starter =
    if errand.isStarting then some number else none
  empty : watched.resolver.line = []
  held : watched.running.HeldBy watched.resolver.holdings
  fits : errand.Fits watched.resolver.options watched.running
  settled : spared → errand.isStarting = false →
    ¬ Stranded watched.resolver.holdings watched.running

/-- No errand waits, neither for the engine nor for its startup. -/
structure AtRest (spared : Prop) (watched : Watched) : Prop where
  idle : ∀ other, watched.resolver.call? other = none
  free : watched.resolver.starter = none
  empty : watched.resolver.line = []
  held : watched.running.HeldBy watched.resolver.holdings
  settled : spared → ¬ Stranded watched.resolver.holdings watched.running

/-- Everything that runs is held, and one errand waits at most.  In a spared run
nothing runs without a page but during a startup. -/
inductive Custody (spared : Prop) (watched : Watched) : Prop
  | resting (rest : AtRest spared watched)
  | busy {number : Nat} {errand : Errand}
      (turn : InTurn spared watched number errand)
      (waits : errand.call? watched.resolver.options ≠ none)

/-- One errand has had its turn, and the others are what they were. -/
def Turned (spared : Prop) (before watched : Watched) : Prop :=
  ∃ number errand, InTurn spared watched number errand ∧
    ∀ other, other ≠ number →
      watched.resolver.errands[other]? = before.resolver.errands[other]? ∨
        watched.resolver.errands[other]? = none

section Steps

variable {spared : Prop} {before watched : Watched} {number : Nat}
  {errand : Errand}

theorem call?_of_here {resolver : BrowserResolver}
    (here : resolver.errands[number]? = some errand) :
    resolver.call? number = errand.call? resolver.options := by
  rw [call?, here]
  rfl

theorem InTurn.custody (turn : InTurn spared watched number errand) :
    Custody spared watched := by
  by_cases waits : errand.call? watched.resolver.options = none
  · have still : errand.isStarting = false := by
      cases starts : errand.isStarting with
      | false => rfl
      | true =>
          exact absurd waits (Errand.call?_ne_none_of_isStarting turn.fits starts)
    refine Custody.resting ⟨fun other => ?_, ?_, turn.empty, turn.held,
      fun spares => turn.settled spares still⟩
    · by_cases same : other = number
      · rw [same, call?_of_here turn.here, waits]
      · exact turn.alone other same
    · rw [turn.starter, still]
      rfl
  · exact Custody.busy turn waits

theorem Turned.custody (turned : Turned spared before watched) :
    Custody spared watched := by
  obtain ⟨number, errand, turn, _⟩ := turned
  exact turn.custody

theorem Custody.held (custody : Custody spared watched) :
    watched.running.HeldBy watched.resolver.holdings := by
  cases custody with
  | resting rest => exact rest.held
  | busy turn waits => exact turn.held

theorem Custody.empty (custody : Custody spared watched) :
    watched.resolver.line = [] := by
  cases custody with
  | resting rest => exact rest.empty
  | busy turn waits => exact turn.empty

theorem Custody.atRest (custody : Custody spared watched)
    (resting : watched.resolver.isResting = true) :
    AtRest spared watched := by
  cases custody with
  | resting rest => exact rest
  | busy turn waits =>
      have finishes := List.all_eq_true.mp resting _
        (List.mem_of_getElem? turn.here)
      exact absurd (Option.isNone_iff_eq_none.mp finishes) waits

theorem custody_create (options : Options) :
    Custody spared (create options) :=
  Custody.resting ⟨fun _ => rfl, rfl, rfl, Running.heldBy_nothing _,
    fun _ => not_stranded_of_nothing rfl⟩

/-! ## Beginning -/

section Beginning

variable {base : BrowserResolver} {running : Running}

theorem call?_begin_of_ne {other : Nat} (different : other ≠ base.errands.length) :
    (base.begin errand).call? other = base.call? other := by
  rw [call?, call?, begin, List.getElem?_append]
  split
  · rfl
  · rename_i outside
    rw [List.getElem?_eq_none (Nat.le_of_not_lt outside),
      List.getElem?_eq_none (by simp; omega)]

/-- An errand that begins while no other waits has its turn. -/
theorem turned_begin (same : base.errands = before.resolver.errands)
    (idle : ∀ other, base.call? other = none)
    (starter : base.starter =
      if errand.isStarting then some base.errands.length else none)
    (empty : base.line = [])
    (runs : Errand.Runs base.options (errand, base.holdings) running)
    (settled : spared → errand.isStarting = false →
      ¬ Stranded base.holdings (running.told (errand.call? base.options))) :
    Turned spared before
      ⟨base.begin errand, running.told (errand.call? base.options)⟩ := by
  refine ⟨base.errands.length, errand,
    { here := List.getElem?_concat_length
      alone := fun other different => ?_
      starter := starter
      empty := empty
      held := runs.held
      fits := runs.fits
      settled := settled }, fun other different => ?_⟩
  · show (base.begin errand).call? other = none
    rw [call?_begin_of_ne different, idle]
  · rw [← same]
    rcases Nat.lt_or_gt_of_ne different with inside | outside
    · exact Or.inl (List.getElem?_append_left inside)
    · refine Or.inr (List.getElem?_eq_none ?_)
      simp only [begin, List.length_append, List.length_singleton]
      omega

/-- An errand that begins makes its first call. -/
theorem step_of_begin {event : Event} (begins : event.begins = true)
    (stepped : watched.resolver.step event = base.begin errand)
    (same : base.errands = watched.resolver.errands) :
    watched.step event =
      ⟨base.begin errand,
        watched.running.told (errand.call? base.options)⟩ := by
  have unheard : watched.heard event = watched.running := by
    cases event <;> first | rfl | cases begins
  have turn : watched.resolver.turn? event = some base.errands.length := by
    rw [same]
    cases event <;> first | rfl | cases begins
  have made : (base.begin errand).call? base.errands.length =
      errand.call? base.options :=
    call?_of_here List.getElem?_concat_length
  rw [step, unheard, turn, stepped, Option.bind_some, made]

end Beginning

/-- An errand that begins without starting or closing the engine changes
nothing of what is held. -/
theorem AtRest.quiet (rest : AtRest spared watched) {event : Event}
    (begins : event.begins = true)
    (stepped : watched.resolver.step event = watched.resolver.begin errand)
    (quiet : errand.isQuiet = true) :
    Turned spared watched (watched.step event) := by
  rw [step_of_begin begins stepped rfl]
  refine turned_begin rfl rest.idle ?_ rest.empty
    (Errand.runs_of_isQuiet quiet rest.held)
    fun spares _ => not_stranded_told (rest.settled spares) _
  rw [Errand.isStarting_of_isQuiet quiet]
  exact rest.free

theorem AtRest.create (rest : AtRest spared watched) (classes : String)
    (unforced : ¬ Stranded watched.resolver.holdings watched.running) :
    Turned spared watched (watched.step (Event.create classes)) := by
  cases known : watched.resolver.holdings.page with
  | some page =>
      have stepped : watched.resolver.step (Event.create classes) =
          watched.resolver.begin (Errand.attaching classes page) := by
        rw [BrowserResolver.step, beginCreate, known]
      exact rest.quiet rfl stepped rfl
  | none =>
      have nothing : watched.running = Running.nothing :=
        Decidable.byContradiction fun runs => unforced ⟨known, runs⟩
      have stepped : watched.resolver.step (Event.create classes) =
          ({ watched.resolver with
            starter := some watched.resolver.errands.length } :
              BrowserResolver).begin
            (Errand.starting classes Startup.starting) := by
        simp only [BrowserResolver.step, beginCreate, known]
        rw [if_pos ⟨rest.free, rest.empty⟩]
      rw [step_of_begin rfl stepped rfl]
      refine turned_begin rfl ?_ rfl rest.empty
        ⟨rest.held, nothing, Option.some_ne_none _⟩ fun _ still => ?_
      · exact rest.idle
      · cases still

theorem AtRest.close (rest : AtRest spared watched) :
    Turned spared watched (watched.step Event.close) := by
  have stepped : watched.resolver.step Event.close =
      ({ watched.resolver with
        holdings := (Closing.start watched.resolver.holdings).2 } :
          BrowserResolver).begin
        (Errand.closing (Closing.start watched.resolver.holdings).1) := rfl
  have runs := Closing.runs_start rest.held
  rw [step_of_begin rfl stepped rfl]
  refine turned_begin rfl ?_ rest.free rest.empty ⟨runs.held, runs.fits⟩
    fun spares _ => Closing.not_stranded_start rest.held (rest.settled spares)
  exact rest.idle

/-! ## Answers -/

/-- An answer that no errand waits for changes nothing. -/
theorem step_answer_of_unheard {response : Response}
    (unheard : watched.resolver.call? number = none) :
    watched.step (Event.answer number response) = watched := by
  have stepped : watched.resolver.step (Event.answer number response) =
      watched.resolver := by
    rw [BrowserResolver.step, answer]
    rw [call?] at unheard
    cases here : watched.resolver.errands[number]? with
    | none => rfl
    | some errand =>
        rw [here, Option.bind_some] at unheard
        simp only [unheard]
  rw [step, stepped, heard, turn?, Option.bind_some]
  simp only [unheard]
  rfl

section Answering

variable {base : BrowserResolver} {running : Running}

theorem call?_put_of_ne {other : Nat} (different : other ≠ number) :
    (base.put number errand).call? other = base.call? other := by
  rw [call?, call?, put, List.getElem?_set_ne (Ne.symm different)]

theorem turned_put (same : base.errands = before.resolver.errands)
    (inside : number < base.errands.length)
    (alone : ∀ other, other ≠ number → base.call? other = none)
    (starter : base.starter = if errand.isStarting then some number else none)
    (empty : base.line = [])
    (runs : Errand.Runs base.options (errand, base.holdings) running)
    (settled : spared → errand.isStarting = false →
      ¬ Stranded base.holdings (running.told (errand.call? base.options))) :
    Turned spared before
      ⟨base.put number errand, running.told (errand.call? base.options)⟩ := by
  refine ⟨number, errand,
    { here := List.getElem?_set_self inside
      alone := fun other different => ?_
      starter := starter
      empty := empty
      held := runs.held
      fits := runs.fits
      settled := settled }, fun other different => Or.inl ?_⟩
  · show (base.put number errand).call? other = none
    rw [call?_put_of_ne different, alone other different]
  · rw [← same]
    exact List.getElem?_set_ne (Ne.symm different)

theorem step_of_put {call : Call} {response : Response}
    (waits : watched.resolver.call? number = some call)
    (stepped : watched.resolver.step (Event.answer number response) =
      base.put number errand)
    (inside : number < base.errands.length) :
    watched.step (Event.answer number response) =
      ⟨base.put number errand,
        (watched.running.afterResponse watched.resolver.serial call
          response).told (errand.call? base.options)⟩ := by
  have made : (base.put number errand).call? number =
      errand.call? base.options :=
    call?_of_here (List.getElem?_set_self inside)
  rw [step, stepped, heard, turn?, Option.bind_some, made]
  simp only [waits]

end Answering

/-- The resolver and what runs when an errand that waits has been answered. -/
def answered (watched : Watched) (number : Nat) (errand : Errand) (call : Call)
    (response : Response) : Watched :=
  let taken := errand.take watched.resolver.holdings watched.resolver.serial
    response
  ⟨({ watched.resolver with
      holdings := taken.2
      starter :=
        if errand.isStarting ∧ !taken.1.isStarting then none
        else watched.resolver.starter
      serial := watched.resolver.serial + 1 } : BrowserResolver).put number
        taken.1,
    (watched.running.afterResponse watched.resolver.serial call response).told
      (taken.1.call? watched.resolver.options)⟩

theorem step_answer_of_here {call : Call}
    (here : watched.resolver.errands[number]? = some errand)
    (waits : errand.call? watched.resolver.options = some call)
    (response : Response) :
    watched.step (Event.answer number response) =
      watched.answered number errand call response := by
  have waiting : watched.resolver.call? number = some call := by
    rw [call?_of_here here, waits]
  have stepped : watched.resolver.step (Event.answer number response) =
      (watched.answered number errand call response).resolver := by
    rw [BrowserResolver.step, BrowserResolver.answer, here]
    simp only [waits]
    rfl
  exact step_of_put waiting stepped (List.getElem?_eq_some_iff.mp here).1

theorem isStarting_take {holdings : Holdings} {serial : Nat}
    {response : Response} (still : errand.isStarting = false) :
    (errand.take holdings serial response).1.isStarting = false := by
  cases errand with
  | starting classes startup => cases still
  | _ => cases response <;> rfl

theorem starter_take {holdings : Holdings} {serial : Nat}
    {response : Response} :
    (if errand.isStarting ∧
        !(errand.take holdings serial response).1.isStarting then none
      else if errand.isStarting then some number else none) =
      if (errand.take holdings serial response).1.isStarting then some number
      else none := by
  cases starts : errand.isStarting with
  | false =>
      rw [isStarting_take starts]
      rfl
  | true =>
      cases (errand.take holdings serial response).1.isStarting <;> rfl

theorem InTurn.answer (turn : InTurn spared watched number errand)
    {call : Call} (waits : errand.call? watched.resolver.options = some call)
    {response : Response}
    (sound : spared → errand.isStarting = true → ∀ fault,
      response = Response.failed fault → isEngineFault fault = true) :
    Turned spared watched (watched.step (Event.answer number response)) := by
  have inside := (List.getElem?_eq_some_iff.mp turn.here).1
  have runs := Errand.runs_take turn.held turn.fits waits
    watched.resolver.serial response
  have settled : spared → _ → _ := fun spares =>
    Errand.not_stranded_take turn.held turn.fits waits watched.resolver.serial
      (sound spares) (turn.settled spares)
  have starter := @starter_take number errand watched.resolver.holdings
    watched.resolver.serial response
  rw [← turn.starter] at starter
  rw [step_answer_of_here turn.here waits]
  refine turned_put rfl inside ?_ starter turn.empty runs settled
  exact turn.alone

/-! ## Runs -/

theorem step_advance_of_empty (empty : watched.resolver.line = []) :
    watched.step Event.advance = watched := by
  have stepped : watched.resolver.step Event.advance = watched.resolver := by
    rw [BrowserResolver.step, advance, empty]
    cases watched.resolver.starter <;> rfl
  rw [step, stepped, turn?, empty]
  rfl

/-- An event changes nothing, or one errand has its turn. -/
theorem Custody.step_cases (custody : Custody spared watched) {event : Event}
    (orderly : watched.OneByOne event) (unforced : watched.Unforced event)
    (sparing : spared → watched.Sparing event) :
    watched.step event = watched ∨
      Turned spared watched (watched.step event) := by
  cases event with
  | create classes =>
      exact Or.inr ((custody.atRest (orderly rfl)).create classes (unforced rfl))
  | compute context =>
      exact Or.inr ((custody.atRest (orderly rfl)).quiet rfl rfl
        (Errand.isQuiet_compute context))
  | destroy context =>
      exact Or.inr ((custody.atRest (orderly rfl)).quiet rfl rfl
        (Errand.isQuiet_destroy context))
  | close => exact Or.inr (custody.atRest (orderly rfl)).close
  | advance => exact Or.inl (step_advance_of_empty custody.empty)
  | answer number response =>
      cases waiting : watched.resolver.call? number with
      | none => exact Or.inl (step_answer_of_unheard waiting)
      | some call =>
          cases custody with
          | resting rest =>
              rw [rest.idle number] at waiting
              cases waiting
          | @busy other errand turn waits =>
              -- an answer counts for nobody but the errand that waits
              obtain rfl : number = other := by
                by_contra different
                rw [turn.alone number different] at waiting
                cases waiting
              rw [call?_of_here turn.here] at waiting
              refine Or.inr
                (turn.answer waiting fun spares starts fault failed => ?_)
              subst failed
              exact (sparing spares).engine turn.here starts

theorem Custody.step (custody : Custody spared watched) {event : Event}
    (orderly : watched.OneByOne event) (unforced : watched.Unforced event)
    (sparing : spared → watched.Sparing event) :
    Custody spared (watched.step event) := by
  rcases custody.step_cases orderly unforced sparing with same | turned
  · rw [same]
    exact custody
  · exact turned.custody

theorem Custody.run (custody : Custody spared watched) {events : List Event}
    (orderly : Throughout OneByOne watched events)
    (unforced : Throughout Unforced watched events)
    (sparing : spared → Throughout Sparing watched events) :
    Custody spared (watched.run events) := by
  induction events generalizing watched with
  | nil => exact custody
  | cons event events inductionHypothesis =>
      exact inductionHypothesis
        (custody.step orderly.1 unforced.1 fun spares => (sparing spares).1)
        orderly.2 unforced.2 fun spares => (sparing spares).2

/-- In a spared run no context is asked for while something runs without a
page. -/
theorem Custody.unforced (custody : Custody True watched)
    {events : List Event} (orderly : Throughout OneByOne watched events)
    (sparing : Throughout Sparing watched events) :
    Throughout Unforced watched events := by
  induction events generalizing watched with
  | nil => trivial
  | cons event events inductionHypothesis =>
      -- a context is asked for at rest, where a spared run has left nothing
      -- stranded; so the step may be taken without assuming it
      have here : watched.Unforced event := fun asks =>
        (custody.atRest (orderly.1 (begins_of_asksContext asks))).settled
          trivial
      exact ⟨here, inductionHypothesis
        (custody.step orderly.1 here fun _ => sparing.1) orderly.2 sparing.2⟩

theorem Custody.eq_nothing_of_closed (custody : Custody spared watched)
    {event : Event} (orderly : watched.OneByOne event)
    (unforced : watched.Unforced event)
    (sparing : spared → watched.Sparing event)
    (ongoing : watched.resolver.errands[number]? ≠
      some (Errand.closing (Closing.finished (Except.ok ()))))
    (closed : (watched.step event).resolver.errands[number]? =
      some (Errand.closing (Closing.finished (Except.ok ())))) :
    (watched.step event).running = Running.nothing := by
  rcases custody.step_cases orderly unforced sparing with same |
    ⟨turned, errand, turn, others⟩
  · rw [same] at closed
    exact absurd closed ongoing
  · by_cases here : number = turned
    · rw [here, turn.here] at closed
      obtain rfl := Option.some.inj closed
      exact turn.fits
    · rcases others number here with kept | absent
      · exact absurd (kept ▸ closed) ongoing
      · rw [absent] at closed
        cases closed

end Steps

/-! ## Everything that runs -/

/-- What errands that do not overlap leave running. -/
structure Accounted (options : Options) (events : List Event) : Prop where
  /-- So long as no context is asked for while something runs without a page,
  everything that runs is held at every moment. -/
  held : Throughout Unforced (create options) events →
    (∀ driver ∈ ((create options).run events).running.drivers,
      ((create options).run events).resolver.holdings.driver = some driver) ∧
    (∀ browser ∈ ((create options).run events).running.browsers,
      ((create options).run events).resolver.holdings.browser = some browser)
  /-- When a way down comes to its end, nothing runs any more. -/
  closed : Throughout Unforced (create options) events →
    ∀ before event, events = before ++ [event] → ∀ number : Nat,
      ((create options).run before).resolver.errands[number]? ≠
          some (Errand.closing (Closing.finished (Except.ok ()))) →
        ((create options).run events).resolver.errands[number]? =
            some (Errand.closing (Closing.finished (Except.ok ()))) →
          ((create options).run events).running = Running.nothing
  /-- Only a startup that has met a fault which is not the engine's leaves
  something running without a page. -/
  spared : Throughout Sparing (create options) events →
    Throughout Unforced (create options) events ∧
      (((create options).run events).resolver.isResting = true →
        ¬ Stranded ((create options).run events).resolver.holdings
          ((create options).run events).running)

/-- However the engine answers the calls of errands that do not overlap, what
runs is held until a context is asked for while something runs without a page,
and that takes a startup which a fault that is not the engine's has cut
short. -/
theorem accounted_of_oneByOne {options : Options} {events : List Event}
    (orderly : Throughout OneByOne (create options) events) :
    Accounted options events where
  held unforced := by
    have fresh : Custody False (create options) := custody_create options
    have custody := fresh.run orderly unforced False.elim
    refine ⟨fun driver member => ?_, fun browser member => ?_⟩
    · exact Option.mem_toList.mp (custody.held.drivers.subset member)
    · exact Option.mem_toList.mp (custody.held.browsers.subset member)
  closed unforced before event partition number ongoing closed := by
    subst partition
    obtain ⟨orderlyBefore, orderly, _⟩ := orderly.append
    obtain ⟨unforcedBefore, unforced, _⟩ := unforced.append
    have fresh : Custody False (create options) := custody_create options
    have custody := fresh.run orderlyBefore unforcedBefore False.elim
    rw [run_append, run_cons, run_nil] at closed ⊢
    exact custody.eq_nothing_of_closed orderly unforced False.elim ongoing closed
  spared sparing := by
    have fresh : Custody True (create options) := custody_create options
    have unforced := fresh.unforced orderly sparing
    exact ⟨unforced, fun resting =>
      ((fresh.run orderly unforced fun _ => sparing).atRest resting).settled
        trivial⟩

/-- A startup that the engine fails, another one, and the way down. -/
def recovering : List Event :=
  [Event.create "p-4",
    Event.answer 0 Response.done,
    Event.answer 0 Response.done,
    Event.answer 0 (Response.failed (Fault.engine false "crashed")),
    Event.answer 0 Response.done,
    Event.answer 0 Response.done,
    Event.create "p-4",
    Event.answer 1 Response.done,
    Event.answer 1 Response.done,
    Event.answer 1 Response.done,
    Event.answer 1 Response.done,
    Event.answer 1 Response.done,
    Event.close,
    Event.answer 2 Response.done,
    Event.answer 2 Response.done]

/-- The engine fails one startup, and after the next nothing is left running. -/
theorem accounted_of_oneByOne_recovering :
    Throughout OneByOne (create Options.usual) recovering ∧
      Throughout Sparing (create Options.usual) recovering ∧
        Throughout Unforced (create Options.usual) recovering ∧
          ((create Options.usual).run recovering).running =
            Running.nothing := by
  have orderly : Throughout OneByOne (create Options.usual) recovering := by
    decide
  have sparing : Throughout Sparing (create Options.usual) recovering := by
    decide
  have accounted := accounted_of_oneByOne orderly
  have unforced := (accounted.spared sparing).1
  exact ⟨orderly, sparing, unforced,
    accounted.closed unforced (recovering.take 14)
      (Event.answer 2 Response.done) rfl 2 (fun same => by cases same) rfl⟩

/-- Two startups that a fault which is not the engine's cuts short, and the way
down. -/
def abandoning : List Event :=
  [Event.create "p-4",
    Event.answer 0 Response.done,
    Event.answer 0 Response.done,
    Event.answer 0 (Response.failed (Fault.foreign "RuntimeError" "boom")),
    Event.create "p-4",
    Event.answer 1 Response.done,
    Event.answer 1 Response.done,
    Event.answer 1 (Response.failed (Fault.foreign "RuntimeError" "boom")),
    Event.close,
    Event.answer 2 Response.done,
    Event.answer 2 Response.done]

/-- The second startup drops what the first one has brought up, and the way down
does not reach it. -/
theorem not_held_abandoning :
    Throughout OneByOne (create Options.usual) abandoning ∧
      ((create Options.usual).run abandoning).resolver.isResting = true ∧
        ((create Options.usual).run abandoning).running = ⟨[0], [1]⟩ ∧
          ¬ ∀ driver ∈ ((create Options.usual).run abandoning).running.drivers,
            ((create Options.usual).run abandoning).resolver.holdings.driver =
              some driver := by
  refine ⟨by decide, rfl, rfl, fun held => ?_⟩
  cases held 0 List.mem_cons_self

end Watched

end UtilityCss

import Mathlib.Data.List.Basic
import UtilityCss.Proofs.Resolver.Browser.Ascent

/-!
# Turns of overlapping errands

Errands may overlap as they like.  So long as nobody closes the resolver and the
engine keeps to what it may do, every event is a turn of one errand, and the
turns keep one errand apart from all others: the one that starts the engine
while the rest stand in line or go on with the page that is held.
-/

namespace UtilityCss

open Browser BrowserResolver

/-- A resolver together with what runs until the engine has ended it. -/
structure Tracked where
  resolver : BrowserResolver
  running : Running

namespace Browser.Errand

/-- The errand neither looks for a page nor is about to use one. -/
def isApart : Errand → Bool
  | queued _ => false
  | starting _ _ => false
  | attaching _ _ => false
  | closing _ => false
  | _ => true

theorem isApart_compute (context : StylingContext) :
    (compute context).isApart = true := by
  rw [compute]
  split <;> rfl

theorem isApart_destroy (context : StylingContext) :
    (destroy context).isApart = true := by
  rw [destroy]
  split <;> rfl

/-- An errand that has its page, or needs none, neither stands in line nor starts
the engine. -/
theorem idle_of_served {errand : Errand}
    (served : errand.isApart = true ∨
      ∃ classes page, errand = attaching classes page) :
    (∀ classes, errand ≠ queued classes) ∧ errand.isStarting = false := by
  rcases served with apart | ⟨classes, page, rfl⟩
  · cases errand with
    | queued classes => cases apart
    | starting classes startup => cases apart
    | _ => exact ⟨fun _ => by simp, rfl⟩
  · exact ⟨fun _ => by simp, rfl⟩

/-- An errand that has its page is apart after the next answer, and an errand
that is apart stays so; neither changes what is held and what runs. -/
theorem take_of_served {options : Options} {errand : Errand} {call : Call}
    (served : errand.isApart = true ∨
      ∃ classes page, errand = attaching classes page)
    (waits : errand.call? options = some call) (holdings : Holdings)
    (running : Running) (serial : Nat) (response : Response) :
    (errand.take holdings serial response).1.isApart = true ∧
      (errand.take holdings serial response).2 = holdings ∧
        running.afterAnswer serial call response = running := by
  cases errand with
  | queued classes => cases waits
  | starting classes startup =>
      cases (idle_of_served served).2
  | closing way =>
      rcases served with apart | ⟨_, _, same⟩
      · cases apart
      · cases same
  | attaching classes page =>
      obtain rfl := Option.some.inj waits
      cases response <;> exact ⟨rfl, rfl, rfl⟩
  | discarding handle =>
      obtain rfl := Option.some.inj waits
      cases response <;> exact ⟨rfl, rfl, rfl⟩
  | computing element =>
      obtain rfl := Option.some.inj waits
      cases response <;> exact ⟨rfl, rfl, rfl⟩
  | removing context =>
      obtain rfl := Option.some.inj waits
      cases response <;> exact ⟨rfl, rfl, rfl⟩
  | releasing context outcome =>
      obtain rfl := Option.some.inj waits
      cases response <;> exact ⟨rfl, rfl, rfl⟩
  | created outcome => cases waits
  | computed outcome => cases waits
  | destroyed context outcome => cases waits

end Browser.Errand

namespace BrowserResolver

section Lookups

variable {base : BrowserResolver} {number other : Nat} {errand : Errand}

theorem getElem?_begin_self :
    (base.begin errand).errands[base.errands.length]? = some errand :=
  List.getElem?_concat_length

theorem getElem?_begin_of_ne (different : other ≠ base.errands.length) :
    (base.begin errand).errands[other]? = base.errands[other]? := by
  rw [begin, List.getElem?_append]
  by_cases inside : other < base.errands.length
  · rw [if_pos inside]
  · have outside : base.errands.length < other := by omega
    rw [if_neg inside, List.getElem?_eq_none (Nat.le_of_lt outside)]
    apply List.getElem?_eq_none
    rw [List.length_singleton]
    omega

theorem getElem?_put_self (here : base.errands[number]? ≠ none) :
    (base.put number errand).errands[number]? = some errand := by
  have inside : number < base.errands.length := by
    by_contra outside
    exact here (List.getElem?_eq_none (Nat.le_of_not_lt outside))
  exact List.getElem?_set_self inside

theorem getElem?_put_of_ne (different : other ≠ number) :
    (base.put number errand).errands[other]? = base.errands[other]? :=
  List.getElem?_set_ne (Ne.symm different)

theorem getElem?_begin_of_some {known : Errand}
    (here : base.errands[number]? = some known) :
    (base.begin errand).errands[number]? = some known := by
  rw [getElem?_begin_of_ne, here]
  have inside : number < base.errands.length :=
    (List.getElem?_eq_some_iff.mp here).1
  omega

theorem getElem?_put_of_some {known : Errand} (different : other ≠ number)
    (here : base.errands[other]? = some known) :
    (base.put number errand).errands[other]? = some known := by
  rw [getElem?_put_of_ne different, here]

theorem ne_length_of_here (here : base.errands[number]? = some errand) :
    number ≠ base.errands.length := by
  have inside : number < base.errands.length :=
    (List.getElem?_eq_some_iff.mp here).1
  omega

end Lookups

end BrowserResolver

namespace Tracked

def create (options : Options) : Tracked :=
  ⟨BrowserResolver.create options, Running.nothing⟩

/-- What runs when an event has happened. -/
def heard (tracked : Tracked) : Event → Running
  | Event.answer number response =>
      match tracked.resolver.call? number with
      | some call =>
          tracked.running.afterAnswer tracked.resolver.serial call response
      | none => tracked.running
  | _ => tracked.running

def step (tracked : Tracked) (event : Event) : Tracked :=
  ⟨tracked.resolver.step event, tracked.heard event⟩

def run (tracked : Tracked) (events : List Event) : Tracked :=
  events.foldl step tracked

/-- Nobody closes the resolver, and the engine keeps to what it may do. -/
def Mild (tracked : Tracked) : Event → Prop
  | Event.close => False
  | Event.answer number response =>
      response.Admitted (tracked.resolver.call? number)
  | _ => True

instance (tracked : Tracked) : ∀ event, Decidable (tracked.Mild event)
  | Event.close => isFalse id
  | Event.answer _ _ => inferInstanceAs (Decidable (Response.Admitted _ _))
  | Event.create _ => isTrue trivial
  | Event.compute _ => isTrue trivial
  | Event.destroy _ => isTrue trivial
  | Event.advance => isTrue trivial

/-- A run of mild events. -/
def Orderly : Tracked → List Event → Prop
  | _, [] => True
  | tracked, event :: events =>
      tracked.Mild event ∧ Orderly (tracked.step event) events

instance : ∀ tracked events, Decidable (Orderly tracked events)
  | _, [] => isTrue trivial
  | tracked, event :: events =>
      have := instDecidableOrderly (tracked.step event) events
      inferInstanceAs (Decidable (_ ∧ _))

/-- The event brings the line on: the errand that starts the engine gets an
answer, or the first in line has its turn. -/
def works (tracked : Tracked) : Event → Bool
  | Event.answer number _ =>
      tracked.resolver.starter == some number &&
        (tracked.resolver.call? number).isSome
  | Event.advance =>
      tracked.resolver.starter.isNone && !tracked.resolver.line.isEmpty
  | _ => false

/-! ## What can happen -/

/-- What a mild event can do. -/
inductive Turn (tracked : Tracked) : Event → Tracked → Prop
  | idle {event : Event} (idle : tracked.works event = false) :
      Turn tracked event tracked
  /-- An errand begins that need not look for a page. -/
  | joined {event : Event} {errand : Errand}
      (idle : tracked.works event = false)
      (served : errand.isApart = true ∨ ∃ classes page,
        tracked.resolver.holdings.page = some page ∧
          errand = Errand.attaching classes page) :
      Turn tracked event ⟨tracked.resolver.begin errand, tracked.running⟩
  | queued {classes : String}
      (pageless : tracked.resolver.holdings.page = none)
      (busy : tracked.resolver.starter = none → tracked.resolver.line ≠ []) :
      Turn tracked (Event.create classes)
        ⟨({ tracked.resolver with
            line := tracked.resolver.line ++
              [tracked.resolver.errands.length] } : BrowserResolver).begin
            (Errand.queued classes), tracked.running⟩
  | started {classes : String}
      (pageless : tracked.resolver.holdings.page = none)
      (free : tracked.resolver.starter = none)
      (empty : tracked.resolver.line = []) :
      Turn tracked (Event.create classes)
        ⟨({ tracked.resolver with
            starter := some tracked.resolver.errands.length } :
              BrowserResolver).begin
            (Errand.starting classes Startup.starting), tracked.running⟩
  /-- An errand that does not start the engine gets an answer. -/
  | heard {number : Nat} {response : Response} {errand next : Errand}
      (idle : tracked.works (Event.answer number response) = false)
      (here : tracked.resolver.errands[number]? = some errand)
      (served : errand.isApart = true ∨
        ∃ classes page, errand = Errand.attaching classes page)
      (apart : next.isApart = true) :
      Turn tracked (Event.answer number response)
        ⟨({ tracked.resolver with
            serial := tracked.resolver.serial + 1 } : BrowserResolver).put
            number next, tracked.running⟩
  /-- The errand that starts the engine gets an answer and goes on starting. -/
  | climbed {number : Nat} {response : Response} {classes : String}
      {startup next : Startup} {holdings : Holdings} {running : Running}
      (here : tracked.resolver.errands[number]? =
        some (Errand.starting classes startup))
      (stood : startup.Stands tracked.resolver.holdings tracked.running)
      (stands : next.Stands holdings running)
      (nearer : next.remaining < startup.remaining)
      (going : 0 < next.remaining) :
      Turn tracked (Event.answer number response)
        ⟨({ tracked.resolver with
            holdings := holdings
            serial := tracked.resolver.serial + 1 } : BrowserResolver).put
            number (Errand.starting classes next), running⟩
  /-- The errand that starts the engine is done with that. -/
  | ended {number : Nat} {response : Response} {classes : String}
      {startup : Startup} {outcome : Except Fault Nat} {holdings : Holdings}
      {running : Running}
      (here : tracked.resolver.errands[number]? =
        some (Errand.starting classes startup))
      (stood : startup.Stands tracked.resolver.holdings tracked.running)
      (going : 0 < startup.remaining)
      (stands : (Startup.finished outcome).Stands holdings running) :
      Turn tracked (Event.answer number response)
        ⟨({ tracked.resolver with
            holdings := holdings
            starter := none
            serial := tracked.resolver.serial + 1 } : BrowserResolver).put
            number (Errand.afterStartup classes (Startup.finished outcome)),
          running⟩
  | reused {number page : Nat} {others : List Nat} {classes : String}
      (free : tracked.resolver.starter = none)
      (first : tracked.resolver.line = number :: others)
      (here : tracked.resolver.errands[number]? =
        some (Errand.queued classes))
      (held : tracked.resolver.holdings.page = some page) :
      Turn tracked Event.advance
        ⟨({ tracked.resolver with line := others } : BrowserResolver).put
            number (Errand.attaching classes page), tracked.running⟩
  | restarted {number : Nat} {others : List Nat} {classes : String}
      (free : tracked.resolver.starter = none)
      (first : tracked.resolver.line = number :: others)
      (here : tracked.resolver.errands[number]? =
        some (Errand.queued classes))
      (pageless : tracked.resolver.holdings.page = none) :
      Turn tracked Event.advance
        ⟨({ tracked.resolver with
            line := others
            starter := some number } : BrowserResolver).put
            number (Errand.starting classes Startup.starting),
          tracked.running⟩

/-- Where an errand has got to, and what that says of the resolver. -/
inductive Placed (tracked : Tracked) (number : Nat) : Errand → Prop
  | waiting {classes : String} (inLine : number ∈ tracked.resolver.line) :
      Placed tracked number (Errand.queued classes)
  | starting {classes : String} {startup : Startup}
      (turn : tracked.resolver.starter = some number)
      (stands : startup.Stands tracked.resolver.holdings tracked.running)
      (going : 0 < startup.remaining) :
      Placed tracked number (Errand.starting classes startup)
  | attaching {classes : String} {page : Nat}
      (held : tracked.resolver.holdings.page = some page) :
      Placed tracked number (Errand.attaching classes page)
  | apart {errand : Errand} (apart : errand.isApart = true) :
      Placed tracked number errand

/-- One errand at most starts the engine, and every other one waits for it, uses
the page that is held, or needs none. -/
structure Shared (tracked : Tracked) : Prop where
  placed : ∀ number errand, tracked.resolver.errands[number]? = some errand →
    Placed tracked number errand
  queued : ∀ number ∈ tracked.resolver.line, ∃ classes,
    tracked.resolver.errands[number]? = some (Errand.queued classes)
  once : tracked.resolver.line.Nodup
  busy : ∀ number, tracked.resolver.starter = some number →
    ∃ classes startup, tracked.resolver.errands[number]? =
      some (Errand.starting classes startup)
  free : tracked.resolver.starter = none → ∃ outcome,
    (Startup.finished outcome).Stands tracked.resolver.holdings
      tracked.running

section Turns

variable {tracked : Tracked}

theorem step_answer {number : Nat} {errand : Errand} {call : Call}
    (here : tracked.resolver.errands[number]? = some errand)
    (waits : errand.call? tracked.resolver.options = some call)
    (response : Response) :
    tracked.step (Event.answer number response) =
      ⟨({ tracked.resolver with
          holdings := (errand.take tracked.resolver.holdings
            tracked.resolver.serial response).2
          starter :=
            if errand.isStarting ∧
                !(errand.take tracked.resolver.holdings
                  tracked.resolver.serial response).1.isStarting then none
            else tracked.resolver.starter
          serial := tracked.resolver.serial + 1 } : BrowserResolver).put number
            (errand.take tracked.resolver.holdings tracked.resolver.serial
              response).1,
        tracked.running.afterAnswer tracked.resolver.serial call response⟩ := by
  have waiting : tracked.resolver.call? number = some call := by
    rw [BrowserResolver.call?, here, Option.bind_some, waits]
  rw [step, heard, waiting, BrowserResolver.step, answer, here]
  simp only [waits]

theorem step_answer_of_unheard {number : Nat} (response : Response)
    (unheard : tracked.resolver.call? number = none) :
    tracked.step (Event.answer number response) = tracked := by
  have same : tracked.resolver.answer number response = tracked.resolver := by
    rw [answer]
    rw [BrowserResolver.call?] at unheard
    cases here : tracked.resolver.errands[number]? with
    | none => rfl
    | some errand =>
        rw [here, Option.bind_some] at unheard
        simp only [unheard]
  rw [step, heard, unheard, BrowserResolver.step, same]

theorem turn_create (tracked : Tracked) (classes : String) :
    Turn tracked (Event.create classes)
      (tracked.step (Event.create classes)) := by
  have stepped : tracked.step (Event.create classes) =
      ⟨tracked.resolver.beginCreate classes, tracked.running⟩ := rfl
  rw [stepped, beginCreate]
  cases held : tracked.resolver.holdings.page with
  | some page => exact Turn.joined rfl (Or.inr ⟨classes, page, held, rfl⟩)
  | none =>
      by_cases alone : tracked.resolver.starter = none ∧
          tracked.resolver.line = []
      · simp only [if_pos alone]
        exact Turn.started held alone.1 alone.2
      · simp only [if_neg alone]
        exact Turn.queued held fun free empty => alone ⟨free, empty⟩

theorem turn_ascent {number : Nat} {classes : String} {startup : Startup}
    {response : Response}
    (here : tracked.resolver.errands[number]? =
      some (Errand.starting classes startup))
    (stands : startup.Stands tracked.resolver.holdings tracked.running)
    (going : 0 < startup.remaining)
    (mild : tracked.Mild (Event.answer number response)) :
    Turn tracked (Event.answer number response)
      (tracked.step (Event.answer number response)) := by
  obtain ⟨call, waits⟩ := stands.exists_call going tracked.resolver.options
  have waiting : tracked.resolver.call? number = some call := by
    rw [BrowserResolver.call?, here, Option.bind_some]
    exact waits
  have admitted : response.Admitted (some call) := by
    rw [← waiting]
    exact mild
  have rises := Startup.rises_take stands waits tracked.resolver.serial admitted
  rw [step_answer here waits response]
  cases risen : startup.take tracked.resolver.holdings tracked.resolver.serial
    response with | mk next left
  rw [risen] at rises
  obtain ⟨nextStands, nearer⟩ := rises
  simp only [Errand.take, risen]
  cases next with
  | finished outcome =>
      cases outcome <;> exact Turn.ended here stands going nextStands
  | _ =>
      exact Turn.climbed here stands nextStands nearer
        (nextStands.remaining_pos (by simp))

theorem turn_served {number : Nat} {errand : Errand} {response : Response}
    (here : tracked.resolver.errands[number]? = some errand)
    (served : errand.isApart = true ∨
      ∃ classes page, errand = Errand.attaching classes page)
    (idle : tracked.works (Event.answer number response) = false) :
    Turn tracked (Event.answer number response)
      (tracked.step (Event.answer number response)) := by
  cases waits : errand.call? tracked.resolver.options with
  | none =>
      rw [step_answer_of_unheard response (by
        rw [BrowserResolver.call?, here, Option.bind_some, waits])]
      exact Turn.idle idle
  | some call =>
      obtain ⟨apart, kept, unheard⟩ :=
        Errand.take_of_served served waits tracked.resolver.holdings
          tracked.running tracked.resolver.serial response
      rw [step_answer here waits response, unheard, kept,
        (Errand.idle_of_served served).2]
      exact Turn.heard idle here served apart

theorem Shared.turn_advance (shared : Shared tracked) :
    Turn tracked Event.advance (tracked.step Event.advance) := by
  have stepped : tracked.step Event.advance =
      ⟨tracked.resolver.advance, tracked.running⟩ := rfl
  rw [stepped]
  cases starter : tracked.resolver.starter with
  | some number =>
      have same : tracked.resolver.advance = tracked.resolver := by
        rw [advance, starter]
      rw [same]
      apply Turn.idle
      rw [works, starter, Option.isNone_some, Bool.false_and]
  | none =>
      cases line : tracked.resolver.line with
      | nil =>
          have same : tracked.resolver.advance = tracked.resolver := by
            rw [advance, starter, line]
          rw [same]
          apply Turn.idle
          rw [works, line, List.isEmpty_nil, Bool.not_true, Bool.and_false]
      | cons number others =>
          have inLine : number ∈ tracked.resolver.line := by simp [line]
          obtain ⟨classes, here⟩ := shared.queued number inLine
          cases held : tracked.resolver.holdings.page with
          | some page =>
              have reused : tracked.resolver.advance =
                  ({ tracked.resolver with line := others } :
                    BrowserResolver).put number
                      (Errand.attaching classes page) := by
                rw [advance]
                simp only [starter, line, here, held]
              rw [reused]
              exact Turn.reused starter line here held
          | none =>
              have restarted : tracked.resolver.advance =
                  ({ tracked.resolver with
                      line := others
                      starter := some number } : BrowserResolver).put number
                      (Errand.starting classes Startup.starting) := by
                rw [advance]
                simp only [starter, line, here, held]
              rw [restarted]
              exact Turn.restarted starter line here held

/-- A mild event does one of these things. -/
theorem Shared.turn (shared : Shared tracked) {event : Event}
    (mild : tracked.Mild event) :
    Turn tracked event (tracked.step event) := by
  cases event with
  | create classes => exact turn_create tracked classes
  | compute context =>
      exact Turn.joined rfl (Or.inl (Errand.isApart_compute context))
  | destroy context =>
      exact Turn.joined rfl (Or.inl (Errand.isApart_destroy context))
  | close => cases mild
  | answer number response =>
      cases here : tracked.resolver.errands[number]? with
      | none =>
          have unheard : tracked.resolver.call? number = none := by
            rw [BrowserResolver.call?, here, Option.bind_none]
          rw [step_answer_of_unheard response unheard]
          apply Turn.idle
          rw [works, unheard, Option.isSome_none, Bool.and_false]
      | some errand =>
          -- an errand that does not start the engine is not the starter
          have idle : (∀ classes startup,
              errand ≠ Errand.starting classes startup) →
                tracked.works (Event.answer number response) = false := by
            intro different
            have other : tracked.resolver.starter ≠ some number := by
              intro starts
              obtain ⟨classes, startup, same⟩ := shared.busy number starts
              rw [here] at same
              exact different classes startup (Option.some.inj same)
            rw [works, beq_eq_false_iff_ne.mpr other, Bool.false_and]
          cases shared.placed number errand here with
          | waiting inLine =>
              have unheard : tracked.resolver.call? number = none := by
                rw [BrowserResolver.call?, here]
                rfl
              rw [step_answer_of_unheard response unheard]
              exact Turn.idle (idle (by simp))
          | starting turn stands going =>
              exact turn_ascent here stands going mild
          | attaching held =>
              exact turn_served here (Or.inr ⟨_, _, rfl⟩) (idle (by simp))
          | apart apart =>
              refine turn_served here (Or.inl apart) (idle ?_)
              rintro classes startup rfl
              cases apart
  | advance => exact shared.turn_advance

end Turns

/-! ## What every event keeps -/

section Keeping

variable {before after tracked : Tracked} {event : Event} {number : Nat}
  {errand : Errand}

theorem Placed.carry (placed : Placed before number errand)
    (line : number ∈ before.resolver.line → number ∈ after.resolver.line)
    (starter : before.resolver.starter = some number →
      after.resolver.starter = some number)
    (holdings : after.resolver.holdings = before.resolver.holdings)
    (running : after.running = before.running) :
    Placed after number errand := by
  cases placed with
  | waiting inLine => exact Placed.waiting (line inLine)
  | starting turn stands going =>
      rw [← holdings, ← running] at stands
      exact Placed.starting (starter turn) stands going
  | attaching held =>
      rw [← holdings] at held
      exact Placed.attaching held
  | apart apart => exact Placed.apart apart

/-- While an errand starts the engine, the others only wait for that or are
apart from it, whatever comes up. -/
theorem Placed.aside (placed : Placed before number errand)
    (other : before.resolver.starter ≠ some number)
    (pageless : before.resolver.holdings.page = none)
    (line : after.resolver.line = before.resolver.line) :
    Placed after number errand := by
  cases placed with
  | waiting inLine =>
      rw [← line] at inLine
      exact Placed.waiting inLine
  | starting turn stands going => exact absurd turn other
  | attaching held =>
      rw [pageless] at held
      cases held
  | apart apart => exact Placed.apart apart

theorem Shared.not_mem_line (shared : Shared tracked)
    (different : ∀ classes,
      tracked.resolver.errands[number]? ≠ some (Errand.queued classes)) :
    number ∉ tracked.resolver.line := by
  intro inLine
  obtain ⟨classes, here⟩ := shared.queued number inLine
  exact different classes here

theorem Shared.starter_ne (shared : Shared tracked)
    (different : ∀ classes startup,
      tracked.resolver.errands[number]? ≠
        some (Errand.starting classes startup)) :
    tracked.resolver.starter ≠ some number := by
  intro starts
  obtain ⟨classes, startup, here⟩ := shared.busy number starts
  exact different classes startup here

theorem Shared.placed_starting (shared : Shared tracked) {classes : String}
    {startup : Startup}
    (here : tracked.resolver.errands[number]? =
      some (Errand.starting classes startup)) :
    tracked.resolver.starter = some number ∧
      startup.Stands tracked.resolver.holdings tracked.running ∧
        0 < startup.remaining := by
  cases shared.placed number _ here with
  | starting turn stands going => exact ⟨turn, stands, going⟩
  | apart apart => cases apart

theorem Shared.placed_attaching (shared : Shared tracked) {classes : String}
    {page : Nat}
    (here : tracked.resolver.errands[number]? =
      some (Errand.attaching classes page)) :
    tracked.resolver.holdings.page = some page := by
  cases shared.placed number _ here with
  | attaching held => exact held
  | apart apart => cases apart

theorem Shared.mem_line (shared : Shared tracked) {classes : String}
    (here : tracked.resolver.errands[number]? =
      some (Errand.queued classes)) :
    number ∈ tracked.resolver.line := by
  cases shared.placed number _ here with
  | waiting inLine => exact inLine
  | apart apart => cases apart

/-- One errand has had its turn, and the others are what they were. -/
theorem shared_of_turned {errands : List Errand}
    (here : after.resolver.errands[number]? = some errand)
    (others : ∀ other, other ≠ number →
      after.resolver.errands[other]? = errands[other]?)
    (own : Placed after number errand)
    (placed : ∀ other known, other ≠ number →
      errands[other]? = some known → Placed after other known)
    (queued : ∀ other ∈ after.resolver.line, other ≠ number →
      ∃ classes, errands[other]? = some (Errand.queued classes))
    (waits : number ∈ after.resolver.line →
      ∃ classes, errand = Errand.queued classes)
    (once : after.resolver.line.Nodup)
    (busy : ∀ other, after.resolver.starter = some other → other ≠ number →
      ∃ classes startup,
        errands[other]? = some (Errand.starting classes startup))
    (starts : after.resolver.starter = some number →
      ∃ classes startup, errand = Errand.starting classes startup)
    (free : after.resolver.starter = none → ∃ outcome,
      (Startup.finished outcome).Stands after.resolver.holdings
        after.running) :
    Shared after := by
  constructor
  · intro other known there
    by_cases same : other = number
    · rw [same, here] at there
      obtain rfl := Option.some.inj there
      rw [same]
      exact own
    · rw [others other same] at there
      exact placed other known same there
  · intro other inLine
    by_cases same : other = number
    · rw [same] at inLine ⊢
      obtain ⟨classes, rfl⟩ := waits inLine
      exact ⟨classes, here⟩
    · rw [others other same]
      exact queued other inLine same
  · exact once
  · intro other turn
    by_cases same : other = number
    · rw [same] at turn ⊢
      obtain ⟨classes, startup, rfl⟩ := starts turn
      exact ⟨classes, startup, here⟩
    · rw [others other same]
      exact busy other turn same
  · exact free

theorem absent_of_new (tracked : Tracked) (known : Errand) :
    tracked.resolver.errands[tracked.resolver.errands.length]? ≠
      some known := by
  intro here
  exact ne_length_of_here here rfl

theorem Shared.joined (shared : Shared tracked)
    (served : errand.isApart = true ∨ ∃ classes page,
      tracked.resolver.holdings.page = some page ∧
        errand = Errand.attaching classes page) :
    Shared ⟨tracked.resolver.begin errand, tracked.running⟩ := by
  apply shared_of_turned getElem?_begin_self
    (fun _ different => getElem?_begin_of_ne different)
  · rcases served with apart | ⟨classes, page, held, rfl⟩
    · exact Placed.apart apart
    · exact Placed.attaching held
  · intro other known _ there
    exact (shared.placed other known there).carry id id rfl rfl
  · intro other inLine _
    exact shared.queued other inLine
  · intro inLine
    exact absurd inLine (shared.not_mem_line fun _ => absent_of_new tracked _)
  · exact shared.once
  · intro other turn _
    exact shared.busy other turn
  · intro turn
    exact absurd turn (shared.starter_ne fun _ _ => absent_of_new tracked _)
  · exact shared.free

theorem Shared.enqueued (shared : Shared tracked) (classes : String) :
    Shared
      ⟨({ tracked.resolver with
          line := tracked.resolver.line ++
            [tracked.resolver.errands.length] } : BrowserResolver).begin
          (Errand.queued classes), tracked.running⟩ := by
  have fresh : tracked.resolver.errands.length ∉ tracked.resolver.line :=
    shared.not_mem_line fun _ => absent_of_new tracked _
  apply shared_of_turned getElem?_begin_self
    (fun _ different => getElem?_begin_of_ne different)
  · exact Placed.waiting
      (List.mem_append_right _ (List.mem_singleton_self _))
  · intro other known _ there
    refine (shared.placed other known there).carry ?_ id rfl rfl
    exact List.mem_append_left _
  · intro other inLine different
    rcases List.mem_append.mp inLine with earlier | last
    · exact shared.queued other earlier
    · exact absurd (List.mem_singleton.mp last) different
  · intro _
    exact ⟨classes, rfl⟩
  · refine List.nodup_append.mpr ⟨shared.once, by simp, ?_⟩
    intro other earlier last isLast same
    rw [List.mem_singleton.mp isLast] at same
    exact fresh (same ▸ earlier)
  · intro other turn _
    exact shared.busy other turn
  · intro turn
    exact absurd turn (shared.starter_ne fun _ _ => absent_of_new tracked _)
  · exact shared.free

/-- Without a page, nothing is held and nothing runs between two startups. -/
theorem Shared.starting_stands (shared : Shared tracked)
    (free : tracked.resolver.starter = none)
    (pageless : tracked.resolver.holdings.page = none) :
    Startup.starting.Stands tracked.resolver.holdings tracked.running := by
  obtain ⟨outcome, stands⟩ := shared.free free
  generalize tracked.resolver.holdings = holdings at stands pageless ⊢
  generalize tracked.running = running at stands ⊢
  cases stands with
  | ready => cases pageless
  | failed => exact Startup.Stands.starting

theorem Shared.started (shared : Shared tracked) (classes : String)
    (pageless : tracked.resolver.holdings.page = none)
    (free : tracked.resolver.starter = none) :
    Shared
      ⟨({ tracked.resolver with
          starter := some tracked.resolver.errands.length } :
            BrowserResolver).begin
          (Errand.starting classes Startup.starting), tracked.running⟩ := by
  apply shared_of_turned getElem?_begin_self
    (fun _ different => getElem?_begin_of_ne different)
  · exact Placed.starting rfl (shared.starting_stands free pageless)
      (by simp [Startup.remaining])
  · intro other known _ there
    refine (shared.placed other known there).carry id ?_ rfl rfl
    intro turn
    rw [free] at turn
    cases turn
  · intro other inLine _
    exact shared.queued other inLine
  · intro inLine
    exact absurd inLine (shared.not_mem_line fun _ => absent_of_new tracked _)
  · exact shared.once
  · intro other turn different
    exact absurd (Option.some.inj turn).symm different
  · intro _
    exact ⟨classes, Startup.starting, rfl⟩
  · intro free
    cases free

theorem Shared.served (shared : Shared tracked) {known next : Errand}
    (serial : Nat) (here : tracked.resolver.errands[number]? = some known)
    (served : known.isApart = true ∨
      ∃ classes page, known = Errand.attaching classes page)
    (apart : next.isApart = true) :
    Shared
      ⟨({ tracked.resolver with serial := serial } : BrowserResolver).put
          number next, tracked.running⟩ := by
  obtain ⟨unqueued, idle⟩ := Errand.idle_of_served served
  have notQueued : ∀ classes,
      tracked.resolver.errands[number]? ≠ some (Errand.queued classes) := by
    intro classes there
    exact unqueued classes (Option.some.inj (here.symm.trans there))
  have notStarting : ∀ classes startup,
      tracked.resolver.errands[number]? ≠
        some (Errand.starting classes startup) := by
    intro classes startup there
    obtain rfl := Option.some.inj (here.symm.trans there)
    cases idle
  apply shared_of_turned (getElem?_put_self (by simp [here]))
    (fun _ different => getElem?_put_of_ne different)
  · exact Placed.apart apart
  · intro other known _ there
    exact (shared.placed other known there).carry id id rfl rfl
  · intro other inLine _
    exact shared.queued other inLine
  · intro inLine
    exact absurd inLine (shared.not_mem_line notQueued)
  · exact shared.once
  · intro other turn _
    exact shared.busy other turn
  · intro turn
    exact absurd turn (shared.starter_ne notStarting)
  · exact shared.free

section Ascending

variable {classes : String} {startup : Startup} {holdings : Holdings}
  {running : Running}

/-- The errand that starts the engine does not stand in line. -/
theorem Shared.starting_not_mem_line (shared : Shared tracked)
    (here : tracked.resolver.errands[number]? =
      some (Errand.starting classes startup)) :
    number ∉ tracked.resolver.line := by
  apply shared.not_mem_line
  intro classes there
  rw [here] at there
  cases there

/-- While an errand starts the engine, there is no page for any other. -/
theorem Shared.others_aside (shared : Shared tracked)
    (here : tracked.resolver.errands[number]? =
      some (Errand.starting classes startup))
    (line : after.resolver.line = tracked.resolver.line) {other : Nat}
    {known : Errand} (different : other ≠ number)
    (there : tracked.resolver.errands[other]? = some known) :
    Placed after other known := by
  obtain ⟨turn, stands, going⟩ := shared.placed_starting here
  apply (shared.placed other known there).aside _
    (stands.page_eq_none going) line
  rw [turn]
  intro same
  exact different (Option.some.inj same).symm

theorem Shared.climbed (shared : Shared tracked) (serial : Nat)
    {next : Startup}
    (here : tracked.resolver.errands[number]? =
      some (Errand.starting classes startup))
    (stands : next.Stands holdings running) (going : 0 < next.remaining) :
    Shared
      ⟨({ tracked.resolver with
          holdings := holdings
          serial := serial } : BrowserResolver).put number
          (Errand.starting classes next), running⟩ := by
  have turn := (shared.placed_starting here).1
  apply shared_of_turned (getElem?_put_self (by simp [here]))
    (fun _ different => getElem?_put_of_ne different)
  · exact Placed.starting turn stands going
  · intro other known different there
    refine shared.others_aside here ?_ different there
    rfl
  · intro other inLine _
    exact shared.queued other inLine
  · intro inLine
    exact absurd inLine (shared.starting_not_mem_line here)
  · exact shared.once
  · intro other turn _
    exact shared.busy other turn
  · intro _
    exact ⟨classes, next, rfl⟩
  · intro free
    change tracked.resolver.starter = none at free
    rw [turn] at free
    cases free

theorem Shared.ended (shared : Shared tracked) (serial : Nat)
    {outcome : Except Fault Nat}
    (here : tracked.resolver.errands[number]? =
      some (Errand.starting classes startup))
    (stands : (Startup.finished outcome).Stands holdings running) :
    Shared
      ⟨({ tracked.resolver with
          holdings := holdings
          starter := none
          serial := serial } : BrowserResolver).put number
          (Errand.afterStartup classes (Startup.finished outcome)),
        running⟩ := by
  apply shared_of_turned (getElem?_put_self (by simp [here]))
    (fun _ different => getElem?_put_of_ne different)
  · cases stands with
    | ready => exact Placed.attaching rfl
    | failed => exact Placed.apart rfl
  · intro other known different there
    refine shared.others_aside here ?_ different there
    rfl
  · intro other inLine _
    exact shared.queued other inLine
  · intro inLine
    exact absurd inLine (shared.starting_not_mem_line here)
  · exact shared.once
  · intro other turn
    cases turn
  · intro turn
    cases turn
  · intro _
    exact ⟨outcome, stands⟩

end Ascending

section Advancing

variable {classes : String} {others : List Nat}

theorem Shared.once_of_first (shared : Shared tracked)
    (first : tracked.resolver.line = number :: others) :
    number ∉ others ∧ others.Nodup := by
  have once := shared.once
  rw [first, List.nodup_cons] at once
  exact once

theorem mem_others_of_mem (first : tracked.resolver.line = number :: others)
    {other : Nat} (different : other ≠ number)
    (inLine : other ∈ tracked.resolver.line) : other ∈ others := by
  rw [first] at inLine
  exact List.mem_of_ne_of_mem different inLine

theorem Shared.reused (shared : Shared tracked) {page : Nat}
    (first : tracked.resolver.line = number :: others)
    (here : tracked.resolver.errands[number]? =
      some (Errand.queued classes))
    (free : tracked.resolver.starter = none)
    (held : tracked.resolver.holdings.page = some page) :
    Shared
      ⟨({ tracked.resolver with line := others } : BrowserResolver).put
          number (Errand.attaching classes page), tracked.running⟩ := by
  apply shared_of_turned (getElem?_put_self (by simp [here]))
    (fun _ different => getElem?_put_of_ne different)
  · exact Placed.attaching held
  · intro other known different there
    exact (shared.placed other known there).carry
      (mem_others_of_mem first different) id rfl rfl
  · intro other inLine _
    apply shared.queued
    rw [first]
    exact List.mem_cons_of_mem _ inLine
  · intro inLine
    exact absurd inLine ((shared.once_of_first first).1)
  · exact (shared.once_of_first first).2
  · intro other turn
    change tracked.resolver.starter = some other at turn
    rw [free] at turn
    cases turn
  · intro turn
    change tracked.resolver.starter = some number at turn
    rw [free] at turn
    cases turn
  · intro _
    exact shared.free free

theorem Shared.restarted (shared : Shared tracked)
    (first : tracked.resolver.line = number :: others)
    (here : tracked.resolver.errands[number]? =
      some (Errand.queued classes))
    (free : tracked.resolver.starter = none)
    (pageless : tracked.resolver.holdings.page = none) :
    Shared
      ⟨({ tracked.resolver with
          line := others
          starter := some number } : BrowserResolver).put number
          (Errand.starting classes Startup.starting), tracked.running⟩ := by
  apply shared_of_turned (getElem?_put_self (by simp [here]))
    (fun _ different => getElem?_put_of_ne different)
  · exact Placed.starting rfl (shared.starting_stands free pageless)
      (by simp [Startup.remaining])
  · intro other known different there
    refine (shared.placed other known there).carry
      (mem_others_of_mem first different) ?_ rfl rfl
    intro turn
    rw [free] at turn
    cases turn
  · intro other inLine _
    apply shared.queued
    rw [first]
    exact List.mem_cons_of_mem _ inLine
  · intro inLine
    exact absurd inLine ((shared.once_of_first first).1)
  · exact (shared.once_of_first first).2
  · intro other turn different
    exact absurd (Option.some.inj turn).symm different
  · intro _
    exact ⟨classes, Startup.starting, rfl⟩
  · intro free
    cases free

end Advancing

theorem Shared.kept (shared : Shared before)
    (turn : Turn before event after) : Shared after := by
  cases turn with
  | idle idle => exact shared
  | joined idle served => exact shared.joined served
  | queued pageless busy => exact shared.enqueued _
  | started pageless free empty => exact shared.started _ pageless free
  | heard idle here served apart => exact shared.served _ here served apart
  | climbed here stood stands nearer going =>
      exact shared.climbed _ here stands going
  | ended here stood going stands => exact shared.ended _ here stands
  | reused free first here held => exact shared.reused first here free held
  | restarted free first here pageless =>
      exact shared.restarted first here free pageless

theorem shared_create (options : Options) : Shared (create options) := by
  constructor
  · intro number errand here
    cases here
  · intro number inLine
    cases inLine
  · exact List.nodup_nil
  · intro number starts
    cases starts
  · intro _
    exact ⟨Except.error (Fault.engine false ""), Startup.Stands.failed⟩

theorem Shared.run (shared : Shared tracked) {events : List Event}
    (orderly : Orderly tracked events) : Shared (tracked.run events) := by
  induction events generalizing tracked with
  | nil => exact shared
  | cons event events inductionHypothesis =>
      exact inductionHypothesis (shared.kept (shared.turn orderly.1)) orderly.2

end Keeping

end Tracked

end UtilityCss

import UtilityCss.Proofs.Resolver.Browser.Turns

/-!
# One engine for all

One errand at a time starts the engine while the others stand in line.  A page
that has come up stays for good and serves them all; a startup that has failed
leaves nothing behind, so that the next in line starts afresh.  Nobody stands in
line for ever: each event that brings the line on brings every errand in it
nearer to its turn.
-/

namespace UtilityCss

open Browser BrowserResolver

namespace Tracked

/-! ## What becomes of an errand -/

section Outcomes

variable {before after tracked : Tracked} {event : Event} {number : Nat}
  {errand : Errand}

/-- What becomes of an errand by one event. -/
inductive Fate (before after : Tracked) (number : Nat) : Errand → Prop
  | same {errand : Errand}
      (here : after.resolver.errands[number]? = some errand) :
      Fate before after number errand
  | served {errand next : Errand}
      (served : errand.isApart = true ∨
        ∃ classes page, errand = Errand.attaching classes page)
      (here : after.resolver.errands[number]? = some next)
      (apart : next.isApart = true) :
      Fate before after number errand
  | reusing {classes : String} {page : Nat}
      (held : before.resolver.holdings.page = some page)
      (here : after.resolver.errands[number]? =
        some (Errand.attaching classes page)) :
      Fate before after number (Errand.queued classes)
  | restarting {classes : String}
      (free : before.resolver.starter = none)
      (pageless : before.resolver.holdings.page = none)
      (here : after.resolver.errands[number]? =
        some (Errand.starting classes Startup.starting)) :
      Fate before after number (Errand.queued classes)
  | climbing {classes : String} {startup next : Startup}
      (here : after.resolver.errands[number]? =
        some (Errand.starting classes next)) :
      Fate before after number (Errand.starting classes startup)
  | ending {classes : String} {startup : Startup}
      {outcome : Except Fault Nat}
      (stands : (Startup.finished outcome).Stands after.resolver.holdings
        after.running)
      (here : after.resolver.errands[number]? =
        some (Errand.afterStartup classes (Startup.finished outcome))) :
      Fate before after number (Errand.starting classes startup)

theorem Turn.fate (turn : Turn before event after)
    (here : before.resolver.errands[number]? = some errand) :
    Fate before after number errand := by
  cases turn with
  | idle idle => exact Fate.same here
  | joined idle served => exact Fate.same (getElem?_begin_of_some here)
  | queued pageless busy => exact Fate.same (getElem?_begin_of_some here)
  | started pageless free empty =>
      exact Fate.same (getElem?_begin_of_some here)
  | @heard other response known next idle there served apart =>
      by_cases same : number = other
      · rw [same] at here ⊢
        rw [there] at here
        obtain rfl := Option.some.inj here
        exact Fate.served served (getElem?_put_self (by simp [there])) apart
      · exact Fate.same (getElem?_put_of_some same here)
  | @climbed other response known stage next holdings running there =>
      by_cases same : number = other
      · rw [same] at here ⊢
        rw [there] at here
        obtain rfl := Option.some.inj here
        exact Fate.climbing (getElem?_put_self (by simp [there]))
      · exact Fate.same (getElem?_put_of_some same here)
  | @ended other response known stage outcome holdings running there stood going
      stands =>
      by_cases same : number = other
      · rw [same] at here ⊢
        rw [there] at here
        obtain rfl := Option.some.inj here
        exact Fate.ending stands (getElem?_put_self (by simp [there]))
      · exact Fate.same (getElem?_put_of_some same here)
  | @reused first page others known free line there held =>
      by_cases same : number = first
      · rw [same] at here ⊢
        rw [there] at here
        obtain rfl := Option.some.inj here
        exact Fate.reusing held (getElem?_put_self (by simp [there]))
      · exact Fate.same (getElem?_put_of_some same here)
  | @restarted first others known free line there pageless =>
      by_cases same : number = first
      · rw [same] at here ⊢
        rw [there] at here
        obtain rfl := Option.some.inj here
        exact Fate.restarting free pageless
          (getElem?_put_self (by simp [there]))
      · exact Fate.same (getElem?_put_of_some same here)

/-- An errand in line leaves it only when nobody starts the engine: it uses the
page that is there, or else starts the engine afresh. -/
theorem Turn.of_queued (turn : Turn before event after) {classes : String}
    (here : before.resolver.errands[number]? =
      some (Errand.queued classes)) :
    after.resolver.errands[number]? = some (Errand.queued classes) ∨
      (∃ page, before.resolver.holdings.page = some page ∧
        after.resolver.errands[number]? =
          some (Errand.attaching classes page)) ∨
      (before.resolver.starter = none ∧
        before.resolver.holdings.page = none ∧
          after.resolver.errands[number]? =
            some (Errand.starting classes Startup.starting)) := by
  cases turn.fate here with
  | same there => exact Or.inl there
  | served served there apart =>
      exact absurd rfl ((Errand.idle_of_served served).1 classes)
  | reusing held there => exact Or.inr (Or.inl ⟨_, held, there⟩)
  | restarting free pageless there =>
      exact Or.inr (Or.inr ⟨free, pageless, there⟩)

/-- An errand that starts the engine goes on with the page that has come up, or
ends with a fault when nothing is held or runs any more. -/
theorem Turn.of_starting (turn : Turn before event after) {classes : String}
    {startup : Startup}
    (here : before.resolver.errands[number]? =
      some (Errand.starting classes startup)) :
    (∃ next, after.resolver.errands[number]? =
      some (Errand.starting classes next)) ∨
      ∃ outcome, (Startup.finished outcome).Stands after.resolver.holdings
          after.running ∧
        after.resolver.errands[number]? =
          some (Errand.afterStartup classes (Startup.finished outcome)) := by
  cases turn.fate here with
  | same there => exact Or.inl ⟨startup, there⟩
  | served served there apart => cases (Errand.idle_of_served served).2
  | climbing there => exact Or.inl ⟨_, there⟩
  | ending stands there => exact Or.inr ⟨_, stands, there⟩

/-- A page that is held stays held, and what runs with it runs on. -/
theorem Turn.of_page (turn : Turn before event after) {page : Nat}
    (held : before.resolver.holdings.page = some page) :
    after.resolver.holdings = before.resolver.holdings ∧
      after.running = before.running := by
  have absurdly : before.resolver.holdings.page ≠ none := by
    rw [held]
    exact Option.some_ne_none page
  cases turn with
  | started pageless free empty => exact absurd pageless absurdly
  | restarted free line there pageless => exact absurd pageless absurdly
  | climbed there stood stands nearer going =>
      have above : 0 < _ := Nat.lt_of_le_of_lt (Nat.zero_le _) nearer
      exact absurd (stood.page_eq_none above) absurdly
  | ended there stood going stands =>
      exact absurd (stood.page_eq_none going) absurdly
  | _ => exact ⟨rfl, rfl⟩

theorem Shared.page_run (shared : Shared tracked) {page : Nat}
    (held : tracked.resolver.holdings.page = some page)
    {later : List Event} (orderly : Orderly tracked later) :
    (tracked.run later).resolver.holdings = tracked.resolver.holdings ∧
      (tracked.run later).running = tracked.running := by
  induction later generalizing tracked with
  | nil => exact ⟨rfl, rfl⟩
  | cons event events inductionHypothesis =>
      have turn := shared.turn orderly.1
      obtain ⟨holdings, running⟩ := turn.of_page held
      have next : (tracked.step event).resolver.holdings.page = some page := by
        rw [holdings, held]
      obtain ⟨kept, runs⟩ :=
        inductionHypothesis (shared.kept turn) next orderly.2
      exact ⟨kept.trans holdings, runs.trans running⟩

end Outcomes

/-! ## How long an errand waits -/

/-- How often a run brings the line on. -/
def worked : Tracked → List Event → Nat
  | _, [] => 0
  | tracked, event :: events =>
      (tracked.works event).toNat + worked (tracked.step event) events

section Waiting

variable {before after tracked : Tracked} {event : Event} {number : Nat}

/-- The number of answers that end the startup that goes on, at the latest. -/
def answersAhead (tracked : Tracked) : Nat :=
  match tracked.resolver.starter with
  | none => 0
  | some starter =>
      match tracked.resolver.errands[starter]? with
      | some (Errand.starting _ startup) => startup.remaining
      | _ => 0

/-- How often the line is brought on at most before an errand has its turn: for
each errand before it ten answers and one advance. -/
def ahead (tracked : Tracked) (number : Nat) : Nat :=
  11 * tracked.resolver.line.idxOf number + tracked.answersAhead

theorem answersAhead_of_free (free : tracked.resolver.starter = none) :
    tracked.answersAhead = 0 := by
  rw [answersAhead, free]

theorem answersAhead_of_starting {starter : Nat} {classes : String}
    {startup : Startup} (turn : tracked.resolver.starter = some starter)
    (here : tracked.resolver.errands[starter]? =
      some (Errand.starting classes startup)) :
    tracked.answersAhead = startup.remaining := by
  rw [answersAhead, turn]
  simp only [here]

theorem Shared.answersAhead_le (shared : Shared tracked) :
    tracked.answersAhead ≤ 10 := by
  cases turn : tracked.resolver.starter with
  | none =>
      rw [answersAhead_of_free turn]
      exact Nat.zero_le 10
  | some starter =>
      obtain ⟨classes, startup, here⟩ := shared.busy starter turn
      rw [answersAhead_of_starting turn here]
      exact (shared.placed_starting here).2.1.remaining_le

theorem Shared.answersAhead_eq (shared : Shared before)
    (starter : after.resolver.starter = before.resolver.starter)
    (kept : ∀ (other : Nat) (known : Errand),
      before.resolver.errands[other]? = some known →
        known.isStarting = true →
          after.resolver.errands[other]? = some known) :
    after.answersAhead = before.answersAhead := by
  cases turn : before.resolver.starter with
  | none =>
      rw [turn] at starter
      rw [answersAhead_of_free turn, answersAhead_of_free starter]
  | some first =>
      rw [turn] at starter
      obtain ⟨classes, startup, here⟩ := shared.busy first turn
      rw [answersAhead_of_starting turn here,
        answersAhead_of_starting starter (kept first _ here rfl)]

theorem ahead_le_of_answers {fewer more worked : Nat}
    (position : after.resolver.line.idxOf number =
      before.resolver.line.idxOf number)
    (later : after.answersAhead = fewer) (now : before.answersAhead = more)
    (nearer : fewer + worked ≤ more) :
    after.ahead number + worked ≤ before.ahead number := by
  rw [ahead, ahead, position, later, now]
  omega

theorem ahead_le_of_advance {first fewer worked : Nat}
    (line : before.resolver.line = first :: after.resolver.line)
    (different : number ≠ first) (later : after.answersAhead = fewer)
    (nearer : fewer + worked ≤ 11) :
    after.ahead number + worked ≤ before.ahead number := by
  rw [ahead, ahead, line, List.idxOf_cons_ne _ (Ne.symm different), later]
  omega

/-- An event that brings the line on brings every errand in it nearer to its
turn, and no event puts one off. -/
theorem Turn.ahead_le (turn : Turn before event after)
    (shared : Shared before) (inLine : number ∈ before.resolver.line)
    (still : number ∈ after.resolver.line) :
    after.ahead number + (before.works event).toNat ≤
      before.ahead number := by
  have once : (before.works event).toNat ≤ 1 := Bool.toNat_le _
  cases turn with
  | idle idle =>
      rw [idle]
      exact Nat.le_refl _
  | joined idle served =>
      rw [idle]
      exact ahead_le_of_answers rfl (shared.answersAhead_eq rfl
        fun _ _ here _ => getElem?_begin_of_some here) rfl (Nat.le_refl _)
  | queued pageless busy =>
      have position : (before.resolver.line ++
          [before.resolver.errands.length]).idxOf number =
            before.resolver.line.idxOf number :=
        List.idxOf_append_of_mem inLine
      exact ahead_le_of_answers position (shared.answersAhead_eq rfl
        fun _ _ here _ => getElem?_begin_of_some here) rfl (Nat.le_refl _)
  | started pageless free empty =>
      rw [empty] at inLine
      cases inLine
  | @heard other response known next idle here served apart =>
      rw [idle]
      refine ahead_le_of_answers rfl (shared.answersAhead_eq rfl
        fun first errand there starts => getElem?_put_of_some ?_ there) rfl
          (Nat.le_refl _)
      rintro rfl
      rw [here] at there
      obtain rfl := Option.some.inj there
      rw [(Errand.idle_of_served served).2] at starts
      cases starts
  | climbed here stood stands nearer going =>
      have turn := (shared.placed_starting here).1
      exact ahead_le_of_answers rfl
        (answersAhead_of_starting turn (getElem?_put_self (by simp [here])))
        (answersAhead_of_starting turn here) (by omega)
  | ended here stood going stands =>
      have turn := (shared.placed_starting here).1
      exact ahead_le_of_answers rfl (answersAhead_of_free rfl)
        (answersAhead_of_starting turn here) (by omega)
  | @reused first page others classes free line here held =>
      have different : number ≠ first := by
        rintro rfl
        exact (shared.once_of_first line).1 still
      exact ahead_le_of_advance line different (answersAhead_of_free free)
        (by omega)
  | @restarted first others classes free line here pageless =>
      have different : number ≠ first := by
        rintro rfl
        exact (shared.once_of_first line).1 still
      refine ahead_le_of_advance line different (answersAhead_of_starting rfl
        (getElem?_put_self (by simp [here]))) ?_
      simp only [Startup.remaining]
      omega

/-- Nothing gets into the line but a new errand. -/
theorem Turn.eq_queued (turn : Turn before event after) {errand : Errand}
    (here : before.resolver.errands[number]? = some errand)
    {classes : String}
    (still : after.resolver.errands[number]? =
      some (Errand.queued classes)) :
    errand = Errand.queued classes := by
  cases turn.fate here with
  | same there =>
      rw [there] at still
      exact Option.some.inj still
  | served served there apart =>
      rw [there] at still
      obtain rfl := Option.some.inj still
      cases apart
  | reusing held there =>
      rw [there] at still
      cases still
  | restarting free pageless there =>
      rw [there] at still
      cases still
  | climbing there =>
      rw [there] at still
      cases still
  | @ending known startup outcome stands there =>
      rw [there] at still
      cases outcome <;> cases still

theorem Turn.exists_here (turn : Turn before event after) {errand : Errand}
    (here : before.resolver.errands[number]? = some errand) :
    ∃ next, after.resolver.errands[number]? = some next := by
  cases turn.fate here with
  | same there => exact ⟨_, there⟩
  | served served there apart => exact ⟨_, there⟩
  | reusing held there => exact ⟨_, there⟩
  | restarting free pageless there => exact ⟨_, there⟩
  | climbing there => exact ⟨_, there⟩
  | ending stands there => exact ⟨_, there⟩

theorem Shared.eq_queued_of_run (shared : Shared tracked) {errand : Errand}
    (here : tracked.resolver.errands[number]? = some errand)
    {classes : String} {later : List Event} (orderly : Orderly tracked later)
    (still : (tracked.run later).resolver.errands[number]? =
      some (Errand.queued classes)) :
    errand = Errand.queued classes := by
  induction later generalizing tracked errand with
  | nil =>
      rw [Tracked.run, List.foldl_nil, here] at still
      exact Option.some.inj still
  | cons event events inductionHypothesis =>
      have turn := shared.turn orderly.1
      obtain ⟨next, there⟩ := turn.exists_here here
      have waits : next = Errand.queued classes :=
        inductionHypothesis (shared.kept turn) there orderly.2 still
      rw [waits] at there
      exact turn.eq_queued here there

/-- However long a run is in which an errand waits, it brings the line on only
so often. -/
theorem Shared.worked_le (shared : Shared tracked) {classes : String}
    (here : tracked.resolver.errands[number]? =
      some (Errand.queued classes)) {later : List Event}
    (orderly : Orderly tracked later)
    (still : (tracked.run later).resolver.errands[number]? =
      some (Errand.queued classes)) :
    worked tracked later ≤ tracked.ahead number := by
  induction later generalizing tracked with
  | nil => exact Nat.zero_le _
  | cons event events inductionHypothesis =>
      have turn := shared.turn orderly.1
      have kept := shared.kept turn
      obtain ⟨next, there⟩ := turn.exists_here here
      obtain rfl : next = Errand.queued classes :=
        kept.eq_queued_of_run there orderly.2 still
      have nearer := turn.ahead_le shared (shared.mem_line here)
        (kept.mem_line there)
      have rest := inductionHypothesis kept there orderly.2 still
      rw [worked]
      omega

/-- Whenever an errand waits, there is an event that brings the line on. -/
theorem Shared.exists_works (shared : Shared tracked)
    (inLine : number ∈ tracked.resolver.line) :
    ∃ event, tracked.Mild event ∧ tracked.works event = true := by
  cases turn : tracked.resolver.starter with
  | none =>
      refine ⟨Event.advance, trivial, ?_⟩
      have filled : tracked.resolver.line ≠ [] := List.ne_nil_of_mem inLine
      simp [works, turn, filled]
  | some starter =>
      obtain ⟨classes, startup, here⟩ := shared.busy starter turn
      obtain ⟨_, stands, going⟩ := shared.placed_starting here
      obtain ⟨call, waits⟩ :=
        stands.exists_call going tracked.resolver.options
      refine ⟨Event.answer starter Response.done, trivial, ?_⟩
      have waiting : tracked.resolver.call? starter = some call := by
        rw [BrowserResolver.call?, here, Option.bind_some]
        exact waits
      simp [works, turn, waiting]

end Waiting

/-! ## One engine for all -/

/-- Overlapping errands share one engine. -/
structure Sharing (tracked : Tracked) : Prop where
  /-- One driver and one browser run at most. -/
  single : tracked.running.drivers.length ≤ 1 ∧
    tracked.running.browsers.length ≤ 1
  /-- One errand at most starts the engine. -/
  alone : ∀ (first second : Nat) (classes others : String)
    (startup stage : Startup),
      tracked.resolver.errands[first]? =
          some (Errand.starting classes startup) →
        tracked.resolver.errands[second]? =
            some (Errand.starting others stage) → first = second
  /-- With a page that is held, its driver and its browser are held and run,
  and nothing else does. -/
  alive : ∀ page, tracked.resolver.holdings.page = some page →
    ∃ driver browser,
      tracked.resolver.holdings = ⟨some driver, some browser, some page⟩ ∧
        tracked.running = ⟨[driver], [browser]⟩
  /-- An errand that has got a page has got the one that is held. -/
  used : ∀ (number page : Nat) (classes : String),
    tracked.resolver.errands[number]? =
        some (Errand.attaching classes page) →
      tracked.resolver.holdings.page = some page
  /-- From the first page on, no errand starts the engine any more, and every
  errand uses that page. -/
  lasting : ∀ page, tracked.resolver.holdings.page = some page →
    ∀ later, Orderly tracked later →
      (tracked.run later).resolver.holdings = tracked.resolver.holdings ∧
      (tracked.run later).running = tracked.running ∧
      (∀ (number : Nat) (classes : String) (startup : Startup),
        (tracked.run later).resolver.errands[number]? ≠
          some (Errand.starting classes startup)) ∧
      ∀ (number other : Nat) (classes : String),
        (tracked.run later).resolver.errands[number]? =
          some (Errand.attaching classes other) → other = page
  /-- A startup ends with a page for the errand, or with a fault and nothing
  left behind. -/
  ended : ∀ event, tracked.Mild event →
    ∀ (number : Nat) (classes : String) (startup : Startup),
      tracked.resolver.errands[number]? =
          some (Errand.starting classes startup) →
        (∃ next, (tracked.step event).resolver.errands[number]? =
          some (Errand.starting classes next)) ∨
        (∃ page, (tracked.step event).resolver.holdings.page = some page ∧
          (tracked.step event).resolver.errands[number]? =
            some (Errand.attaching classes page)) ∨
        (∃ fault, (tracked.step event).resolver.holdings = Holdings.nothing ∧
          (tracked.step event).running = Running.nothing ∧
            (tracked.step event).resolver.errands[number]? =
              some (Errand.created (Except.error fault)))
  /-- An errand in line stays there until it uses the page that has come up
  meanwhile, or starts the engine itself while nothing is held or runs. -/
  turn : ∀ event, tracked.Mild event → ∀ (number : Nat) (classes : String),
    tracked.resolver.errands[number]? = some (Errand.queued classes) →
      (tracked.step event).resolver.errands[number]? =
          some (Errand.queued classes) ∨
      (∃ page, tracked.resolver.holdings.page = some page ∧
        (tracked.step event).resolver.errands[number]? =
          some (Errand.attaching classes page)) ∨
      (tracked.resolver.holdings = Holdings.nothing ∧
        tracked.running = Running.nothing ∧
          (tracked.step event).resolver.errands[number]? =
            some (Errand.starting classes Startup.starting))
  /-- There is always an event that brings the line on, and an errand waits for
  ten answers and one advance for each errand before it at most, besides the
  answers of the startup that goes on. -/
  patience : ∀ (number : Nat) (classes : String),
    tracked.resolver.errands[number]? = some (Errand.queued classes) →
      (∃ event, tracked.Mild event ∧ tracked.works event = true) ∧
      ∀ later, Orderly tracked later →
        (tracked.run later).resolver.errands[number]? =
            some (Errand.queued classes) →
          worked tracked later ≤
            11 * tracked.resolver.line.idxOf number + 10

section Main

variable {tracked : Tracked}

theorem Shared.exists_stands (shared : Shared tracked) :
    ∃ startup : Startup,
      startup.Stands tracked.resolver.holdings tracked.running := by
  cases turn : tracked.resolver.starter with
  | none =>
      obtain ⟨outcome, stands⟩ := shared.free turn
      exact ⟨_, stands⟩
  | some starter =>
      obtain ⟨classes, startup, here⟩ := shared.busy starter turn
      exact ⟨startup, (shared.placed_starting here).2.1⟩

theorem Shared.alive (shared : Shared tracked) {page : Nat}
    (held : tracked.resolver.holdings.page = some page) :
    ∃ driver browser,
      tracked.resolver.holdings = ⟨some driver, some browser, some page⟩ ∧
        tracked.running = ⟨[driver], [browser]⟩ := by
  obtain ⟨startup, stands⟩ := shared.exists_stands
  generalize tracked.resolver.holdings = holdings at stands held ⊢
  generalize tracked.running = running at stands ⊢
  cases stands with
  | @ready driver browser other =>
      obtain rfl : other = page := Option.some.inj held
      exact ⟨driver, browser, rfl, rfl⟩
  | _ => cases held

/-- While a page is held, no errand starts the engine. -/
theorem Shared.not_starting (shared : Shared tracked) {page : Nat}
    (held : tracked.resolver.holdings.page = some page) (number : Nat)
    (classes : String) (startup : Startup) :
    tracked.resolver.errands[number]? ≠
      some (Errand.starting classes startup) := by
  intro here
  obtain ⟨_, stands, going⟩ := shared.placed_starting here
  rw [stands.page_eq_none going] at held
  cases held

theorem Shared.sharing (shared : Shared tracked) : Sharing tracked where
  single := by
    obtain ⟨startup, stands⟩ := shared.exists_stands
    exact ⟨stands.length_drivers_le, stands.length_browsers_le⟩
  alone first second classes others startup stage here there := by
    have turn := (shared.placed_starting here).1
    rw [(shared.placed_starting there).1] at turn
    exact (Option.some.inj turn).symm
  alive page held := shared.alive held
  used number page classes here := shared.placed_attaching here
  lasting page held later orderly := by
    obtain ⟨holdings, running⟩ := shared.page_run held orderly
    have kept : Shared (tracked.run later) := shared.run orderly
    have still : (tracked.run later).resolver.holdings.page = some page := by
      rw [holdings, held]
    refine ⟨holdings, running, kept.not_starting still, ?_⟩
    intro number other classes here
    have same := kept.placed_attaching here
    rw [still] at same
    exact (Option.some.inj same).symm
  ended event mild number classes startup here := by
    have turn := shared.turn mild
    rcases turn.of_starting here with going | ⟨outcome, stands, there⟩
    · exact Or.inl going
    · right
      generalize (tracked.step event).resolver.holdings = holdings
        at stands ⊢
      generalize (tracked.step event).running = running at stands ⊢
      cases stands with
      | ready => exact Or.inl ⟨_, rfl, there⟩
      | failed => exact Or.inr ⟨_, rfl, rfl, there⟩
  turn event mild number classes here := by
    rcases (shared.turn mild).of_queued here with still | reused | restarted
    · exact Or.inl still
    · exact Or.inr (Or.inl reused)
    · obtain ⟨free, pageless, there⟩ := restarted
      have stands := shared.starting_stands free pageless
      generalize tracked.resolver.holdings = holdings at stands ⊢
      generalize tracked.running = running at stands ⊢
      cases stands
      exact Or.inr (Or.inr ⟨rfl, rfl, there⟩)
  patience number classes here := by
    refine ⟨shared.exists_works (shared.mem_line here), ?_⟩
    intro later orderly still
    have bounded := shared.worked_le here orderly still
    have few := shared.answersAhead_le
    rw [ahead] at bounded
    omega

end Main

/-- However errands overlap, and however the engine fails them with errors of
its own, they share one engine so long as nobody closes the resolver. -/
theorem sharing_of_orderly {options : Options} {events : List Event}
    (orderly : Orderly (create options) events) :
    Sharing ((create options).run events) :=
  ((shared_create options).run orderly).sharing

/-- Three contexts are asked for at once.  The engine fails the first startup,
the second errand starts afresh, and the third one uses its page. -/
def overlapping : List Event :=
  [Event.create "p-4",
    Event.create "m-2",
    Event.create "p-8",
    Event.answer 0 Response.done,
    Event.answer 0 Response.done,
    Event.answer 0 (Response.failed (Fault.engine false "crashed")),
    Event.answer 0 Response.done,
    Event.answer 0 Response.done,
    Event.advance,
    Event.answer 1 Response.done,
    Event.answer 1 Response.done,
    Event.answer 1 Response.done,
    Event.answer 1 Response.done,
    Event.advance]

theorem sharing_of_orderly_overlapping :
    Orderly (create Options.usual) overlapping ∧
      ((create Options.usual).run overlapping).running = ⟨[5], [6]⟩ ∧
        Sharing ((create Options.usual).run overlapping) := by
  have orderly : Orderly (create Options.usual) overlapping := by decide
  exact ⟨orderly, rfl, sharing_of_orderly orderly⟩

end Tracked

end UtilityCss

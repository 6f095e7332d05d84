import Mathlib.Data.List.Basic
import UtilityCss.Resolver.Browser

/-!
# Watching the engine from outside

The resolver knows what it holds of the engine; what runs is seen from outside
only, by the calls that errands make and the answers they get.  An errand that
starts the engine while nothing runs holds whatever it brings up, and a way down
that is gone to its end leaves nothing running.  A startup that ends early has
gone this way if the engine itself has failed it, and else leaves what it has
brought up without a page.
-/

namespace UtilityCss

namespace Browser

/-! ## What runs and what is held -/

/-- What runs when an errand makes the call that it waits with, if there is
one. -/
def Running.told (running : Running) : Option Call → Running
  | some call => running.afterCall call
  | none => running

/-- Every driver and every browser that runs is held. -/
structure Running.HeldBy (running : Running) (holdings : Holdings) : Prop where
  drivers : running.drivers.Sublist holdings.driver.toList
  browsers : running.browsers.Sublist holdings.browser.toList

/-- Something runs although there is no page to use. -/
def Stranded (holdings : Holdings) (running : Running) : Prop :=
  holdings.page = none ∧ running ≠ Running.nothing

instance (holdings : Holdings) (running : Running) :
    Decidable (Stranded holdings running) :=
  inferInstanceAs (Decidable (_ ∧ _))

namespace Running

theorem heldBy_nothing (holdings : Holdings) : nothing.HeldBy holdings :=
  ⟨List.nil_sublist _, List.nil_sublist _⟩

theorem eq_nothing {running : Running} (drivers : running.drivers = [])
    (browsers : running.browsers = []) : running = nothing := by
  cases running
  cases drivers
  cases browsers
  rfl

@[simp]
theorem told_nothing (call? : Option Call) : nothing.told call? = nothing := by
  cases call? with
  | none => rfl
  | some call => cases call <;> rfl

theorem afterResponse_failed (running : Running) (serial : Nat) (call : Call)
    (fault : Fault) :
    running.afterResponse serial call (Response.failed fault) = running := by
  cases call <;> rfl

theorem erase_of_sublist_singleton {items : List Nat} {item : Nat}
    (held : items.Sublist [item]) : items.erase item = [] := by
  rcases List.sublist_singleton.mp held with rfl | rfl
  · rfl
  · exact List.erase_cons_head item []

end Running

theorem not_stranded_of_nothing {holdings : Holdings} {running : Running}
    (ended : running = Running.nothing) : ¬ Stranded holdings running :=
  fun stranded => stranded.2 ended

/-- To make a call strands nothing. -/
theorem not_stranded_told {holdings : Holdings} {running : Running}
    (settled : ¬ Stranded holdings running) (call? : Option Call) :
    ¬ Stranded holdings (running.told call?) := by
  rintro ⟨pageless, runs⟩
  refine settled ⟨pageless, fun ended => runs ?_⟩
  rw [ended, Running.told_nothing]

/-! ## The way down -/

namespace Closing

/-- What may run on the way down: no browser any more, and in the end no driver
either unless the way was cut short. -/
def Fits (running : Running) : Closing → Prop
  | browser _ => running.browsers = []
  | driver _ => running = Running.nothing
  | finished (Except.ok _) => running = Running.nothing
  | finished (Except.error _) => True

/-- What is held and what runs when the next call of a way down is made. -/
structure Runs (way : Closing × Holdings) (running : Running) : Prop where
  held : (running.told way.1.call?).HeldBy way.2
  fits : way.1.Fits (running.told way.1.call?)

theorem told_fromDriver {holdings : Holdings} {running : Running}
    (held : running.HeldBy holdings) (closed : running.browsers = []) :
    running.told (fromDriver holdings).1.call? = Running.nothing := by
  have drivers := held.drivers
  rw [fromDriver]
  cases known : holdings.driver with
  | none =>
      rw [known] at drivers
      exact Running.eq_nothing (List.sublist_nil.mp drivers) closed
  | some driver =>
      rw [known] at drivers
      exact Running.eq_nothing (Running.erase_of_sublist_singleton drivers)
        closed

theorem runs_fromDriver {holdings : Holdings} {running : Running}
    (held : running.HeldBy holdings) (closed : running.browsers = []) :
    Runs (fromDriver holdings) running := by
  have ended := told_fromDriver held closed
  refine ⟨ended ▸ Running.heldBy_nothing _, ?_⟩
  rw [ended, fromDriver]
  cases holdings.driver <;> rfl

theorem runs_start {holdings : Holdings} {running : Running}
    (held : running.HeldBy holdings) : Runs (start holdings) running := by
  have browsers := held.browsers
  rw [start]
  cases known : holdings.browser with
  | none =>
      rw [known] at browsers
      exact runs_fromDriver held (List.sublist_nil.mp browsers)
  | some browser =>
      rw [known] at browsers
      -- the browser counts as ended once it is told to close, though it is
      -- held until the way down is over
      have closed : running.browsers.erase browser = [] :=
        Running.erase_of_sublist_singleton browsers
      refine ⟨⟨held.drivers, ?_⟩, closed⟩
      show (running.browsers.erase browser).Sublist _
      rw [closed]
      exact List.nil_sublist _

theorem runs_take {holdings : Holdings} {running : Running} {closing : Closing}
    (held : running.HeldBy holdings) (fits : closing.Fits running)
    (response : Response) : Runs (closing.take holdings response) running := by
  cases closing with
  | browser browser =>
      cases response with
      | failed fault =>
          rw [take]
          split
          · exact runs_fromDriver held fits
          · exact ⟨held, trivial⟩
      | _ => exact runs_fromDriver held fits
  | driver driver =>
      obtain rfl : running = Running.nothing := fits
      cases response with
      | failed fault => exact ⟨held, trivial⟩
      | _ => exact ⟨Running.heldBy_nothing _, rfl⟩
  | finished outcome => cases response <;> exact ⟨held, fits⟩

theorem not_stranded_start {holdings : Holdings} {running : Running}
    (held : running.HeldBy holdings) (settled : ¬ Stranded holdings running) :
    ¬ Stranded (start holdings).2 (running.told (start holdings).1.call?) := by
  have browsers := held.browsers
  rw [start]
  cases known : holdings.browser with
  | none =>
      rw [known] at browsers
      exact not_stranded_of_nothing
        (told_fromDriver held (List.sublist_nil.mp browsers))
  | some browser => exact not_stranded_told settled _

theorem not_stranded_take {holdings : Holdings} {running : Running}
    {closing : Closing} (held : running.HeldBy holdings)
    (fits : closing.Fits running) (settled : ¬ Stranded holdings running)
    (response : Response) :
    ¬ Stranded (closing.take holdings response).2
      (running.told (closing.take holdings response).1.call?) := by
  cases closing with
  | browser browser =>
      cases response with
      | failed fault =>
          rw [take]
          split
          · exact not_stranded_of_nothing (told_fromDriver held fits)
          · exact settled
      | _ => exact not_stranded_of_nothing (told_fromDriver held fits)
  | driver driver =>
      obtain rfl : running = Running.nothing := fits
      exact not_stranded_of_nothing (Running.told_nothing _)
  | finished outcome => cases response <;> exact settled

theorem eq_nothing_of_fromDriver {holdings : Holdings} {running : Running}
    (held : running.HeldBy holdings) (closed : running.browsers = [])
    {outcome : Except Fault Unit}
    (ended : (fromDriver holdings).1 = finished outcome) :
    running = Running.nothing := by
  have told := told_fromDriver held closed
  rw [ended] at told
  exact told

theorem eq_nothing_of_start {holdings : Holdings} {running : Running}
    (held : running.HeldBy holdings) {outcome : Except Fault Unit}
    (ended : (start holdings).1 = finished outcome) :
    running = Running.nothing := by
  have browsers := held.browsers
  rw [start] at ended
  cases known : holdings.browser with
  | none =>
      rw [known] at browsers ended
      exact eq_nothing_of_fromDriver held (List.sublist_nil.mp browsers) ended
  | some browser =>
      rw [known] at ended
      cases ended

/-- A way down that is over leaves nothing running, unless a fault that is not
the engine's has cut it short. -/
theorem eq_nothing_of_take {holdings : Holdings} {running : Running}
    {closing : Closing} (held : running.HeldBy holdings)
    (fits : closing.Fits running) (waits : closing.call? ≠ none)
    {response : Response}
    (sound : ∀ fault, response = Response.failed fault →
      isEngineFault fault = true)
    {outcome : Except Fault Unit}
    (ended : (closing.take holdings response).1 = finished outcome) :
    running = Running.nothing := by
  cases closing with
  | browser browser =>
      cases response with
      | failed fault =>
          rw [take, if_pos (sound fault rfl)] at ended
          exact eq_nothing_of_fromDriver held fits ended
      | _ => exact eq_nothing_of_fromDriver held fits ended
  | driver driver => exact fits
  | finished outcome => exact absurd rfl waits

/-- An answer on the way down brings up nothing. -/
theorem afterResponse_of_call? {closing : Closing} {call : Call}
    (waits : closing.call? = some call) (running : Running) (serial : Nat)
    (response : Response) :
    running.afterResponse serial call response = running := by
  cases closing with
  | finished outcome => cases waits
  | _ =>
      obtain rfl := Option.some.inj waits
      cases response <;> rfl

end Closing

/-! ## The way up -/

namespace Startup

/-- What may run on the way up: nothing before the driver is there, and no
browser before it is launched. -/
def Fits (running : Running) : Startup → Prop
  | starting => running = Running.nothing
  | launching _ _ => running.browsers = []
  | resting _ _ => running.browsers = []
  | undoing closing _ => closing.Fits running ∧ closing.call? ≠ none
  | _ => True

structure Runs (options : Options) (up : Startup × Holdings)
    (running : Running) : Prop where
  held : (running.told (up.1.call? options)).HeldBy up.2
  fits : up.1.Fits (running.told (up.1.call? options))

variable {options : Options} {holdings : Holdings} {running : Running}

theorem runs_undo (cause : Fault) {way : Closing × Holdings}
    (runs : Closing.Runs way running) :
    Runs options (undo cause way) running := by
  obtain ⟨closing, left⟩ := way
  obtain ⟨held, fits⟩ := runs
  cases closing with
  | browser browser => exact ⟨held, fits, Option.some_ne_none _⟩
  | driver driver => exact ⟨held, fits, Option.some_ne_none _⟩
  | finished outcome => cases outcome <;> exact ⟨held, trivial⟩

theorem runs_fail (held : running.HeldBy holdings) (fault : Fault) :
    Runs options (fail holdings fault) running := by
  rw [fail]
  split
  · exact runs_undo fault (Closing.runs_start held)
  · exact ⟨held, trivial⟩

theorem runs_take {startup : Startup} {call : Call}
    (held : running.HeldBy holdings) (fits : startup.Fits running)
    (waits : startup.call? options = some call) (serial : Nat)
    (response : Response) :
    Runs options (startup.take holdings serial response)
      (running.afterResponse serial call response) := by
  cases startup with
  | starting =>
      obtain rfl := Option.some.inj waits
      obtain rfl : running = Running.nothing := fits
      cases response with
      | done =>
          exact ⟨⟨List.Sublist.refl _, List.nil_sublist _⟩, rfl⟩
      | failed fault => exact runs_fail held fault
      | _ => exact ⟨Running.heldBy_nothing _, rfl⟩
  | launching driver attempt =>
      obtain rfl := Option.some.inj waits
      have closed : running.browsers = [] := fits
      cases response with
      | done =>
          refine ⟨⟨held.drivers, ?_⟩, trivial⟩
          show (serial :: running.browsers).Sublist [serial]
          rw [closed]
      | failed fault =>
          rw [take]
          split
          · exact ⟨held, fits⟩
          · exact runs_fail held fault
      | _ =>
          refine ⟨⟨held.drivers, ?_⟩, trivial⟩
          show running.browsers.Sublist [serial]
          rw [closed]
          exact List.nil_sublist _
  | resting driver attempt =>
      obtain rfl := Option.some.inj waits
      cases response <;> exact ⟨held, fits⟩
  | opening browser =>
      obtain rfl := Option.some.inj waits
      cases response with
      | failed fault => exact runs_fail held fault
      | _ => exact ⟨held, trivial⟩
  | filling page =>
      obtain rfl := Option.some.inj waits
      cases response with
      | failed fault => exact runs_fail held fault
      | _ => exact ⟨⟨held.drivers, held.browsers⟩, trivial⟩
  | undoing closing cause =>
      have unheard : running.afterResponse serial call response = running :=
        Closing.afterResponse_of_call? waits running serial response
      rw [unheard]
      cases response <;>
        exact runs_undo cause (Closing.runs_take held fits.1 _)
  | finished outcome => cases waits

theorem exists_of_undo {cause : Fault} {way : Closing × Holdings}
    {outcome : Except Fault Nat}
    (ended : (undo cause way).1 = finished outcome) :
    ∃ parting, way.1 = Closing.finished parting := by
  obtain ⟨closing, left⟩ := way
  cases closing with
  | finished parting => exact ⟨parting, rfl⟩
  | _ => cases ended

theorem eq_nothing_of_fail (held : running.HeldBy holdings) {fault : Fault}
    (sound : isEngineFault fault = true) {outcome : Except Fault Nat}
    (ended : (fail holdings fault).1 = finished outcome) :
    running = Running.nothing := by
  rw [fail, if_pos sound] at ended
  obtain ⟨parting, finishes⟩ := exists_of_undo ended
  exact Closing.eq_nothing_of_start held finishes

/-- A startup that is over has brought up a page or left nothing running, unless
a fault that is not the engine's has cut it short. -/
theorem not_stranded_of_take {startup : Startup} {call : Call}
    (held : running.HeldBy holdings) (fits : startup.Fits running)
    (waits : startup.call? options = some call) (serial : Nat)
    {response : Response}
    (sound : ∀ fault, response = Response.failed fault →
      isEngineFault fault = true)
    {outcome : Except Fault Nat}
    (ended : (startup.take holdings serial response).1 = finished outcome) :
    ¬ Stranded (startup.take holdings serial response).2
      (running.afterResponse serial call response) := by
  have failed : ∀ fault, response = Response.failed fault →
      (fail holdings fault).1 = finished outcome →
        running.afterResponse serial call response = Running.nothing := by
    rintro fault rfl finishes
    rw [Running.afterResponse_failed]
    exact eq_nothing_of_fail held (sound fault rfl) finishes
  cases startup with
  | starting =>
      cases response with
      | failed fault => exact not_stranded_of_nothing (failed fault rfl ended)
      | _ => cases ended
  | launching driver attempt =>
      cases response with
      | failed fault =>
          rw [take] at ended ⊢
          split at ended
          · cases ended
          · exact not_stranded_of_nothing (failed fault rfl ended)
      | _ => cases ended
  | resting driver attempt => cases response <;> cases ended
  | opening browser =>
      cases response with
      | failed fault => exact not_stranded_of_nothing (failed fault rfl ended)
      | _ => cases ended
  | filling page =>
      cases response with
      | failed fault => exact not_stranded_of_nothing (failed fault rfl ended)
      | _ => exact fun stranded => by cases stranded.1
  | undoing closing cause =>
      refine not_stranded_of_nothing ?_
      rw [Closing.afterResponse_of_call? waits]
      have finishes : (undo cause (closing.take holdings response)).1 =
          finished outcome := by
        cases response <;> exact ended
      obtain ⟨parting, finishes⟩ := exists_of_undo finishes
      exact Closing.eq_nothing_of_take held fits.1 fits.2 sound finishes
  | finished outcome => cases waits

end Startup

/-! ## Errands -/

namespace Errand

/-- What may run while an errand waits for an answer. -/
def Fits (options : Options) (running : Running) : Errand → Prop
  | starting _ startup =>
      startup.Fits running ∧ startup.call? options ≠ none
  | closing way => way.Fits running
  | _ => True

structure Runs (options : Options) (errand : Errand × Holdings)
    (running : Running) : Prop where
  held : (running.told (errand.1.call? options)).HeldBy errand.2
  fits : errand.1.Fits options (running.told (errand.1.call? options))

variable {options : Options} {holdings : Holdings} {running : Running}

theorem runs_afterStartup (classes : String) {up : Startup × Holdings}
    (runs : Startup.Runs options up running) :
    Runs options (afterStartup classes up.1, up.2) running := by
  obtain ⟨startup, left⟩ := up
  obtain ⟨held, fits⟩ := runs
  cases startup with
  | finished outcome => cases outcome <;> exact ⟨held, trivial⟩
  | undoing closing cause => exact ⟨held, fits, fits.2⟩
  | _ => exact ⟨held, fits, Option.some_ne_none _⟩

/-! ### Errands that use the engine as it is -/

/-- The errand neither starts the engine nor closes it. -/
def isQuiet : Errand → Bool
  | starting _ _ => false
  | closing _ => false
  | _ => true

theorem isStarting_of_isQuiet {errand : Errand}
    (quiet : errand.isQuiet = true) : errand.isStarting = false := by
  cases errand with
  | starting classes startup => cases quiet
  | _ => rfl

theorem isQuiet_compute (context : StylingContext) :
    (compute context).isQuiet = true := by
  rw [compute]
  split <;> rfl

theorem isQuiet_destroy (context : StylingContext) :
    (destroy context).isQuiet = true := by
  rw [destroy]
  split <;> rfl

theorem runs_of_isQuiet {errand : Errand} (quiet : errand.isQuiet = true)
    (held : running.HeldBy holdings) :
    Runs options (errand, holdings) running := by
  cases errand with
  | starting classes startup => cases quiet
  | closing way => cases quiet
  | _ => exact ⟨held, trivial⟩

/-- An answer to a quiet errand changes nothing of what is held and of what
runs, and leaves the errand quiet. -/
theorem take_of_isQuiet {errand : Errand} {call : Call}
    (quiet : errand.isQuiet = true)
    (waits : errand.call? options = some call) (serial : Nat)
    (response : Response) :
    (errand.take holdings serial response).1.isQuiet = true ∧
      (errand.take holdings serial response).2 = holdings ∧
        running.afterResponse serial call response = running := by
  cases errand with
  | starting classes startup => cases quiet
  | closing way => cases quiet
  | attaching classes page =>
      obtain rfl := Option.some.inj waits
      cases response <;> exact ⟨rfl, rfl, rfl⟩
  | discarding handle =>
      obtain rfl := Option.some.inj waits
      cases response <;> exact ⟨rfl, rfl, rfl⟩
  | computing element =>
      obtain rfl := Option.some.inj waits
      cases response <;> exact ⟨rfl, rfl, rfl⟩
  | removing context =>
      obtain rfl := Option.some.inj waits
      cases response <;> exact ⟨rfl, rfl, rfl⟩
  | releasing context outcome =>
      obtain rfl := Option.some.inj waits
      cases response <;> exact ⟨rfl, rfl, rfl⟩
  | _ => cases waits

/-! ### Answers -/

theorem runs_take {errand : Errand} {call : Call}
    (held : running.HeldBy holdings) (fits : errand.Fits options running)
    (waits : errand.call? options = some call) (serial : Nat)
    (response : Response) :
    Runs options (errand.take holdings serial response)
      (running.afterResponse serial call response) := by
  cases kind : errand.isQuiet with
  | true =>
      obtain ⟨quiet, kept, unheard⟩ :=
        @take_of_isQuiet options holdings running _ _ kind waits serial response
      rw [unheard]
      generalize errand.take holdings serial response = taken at quiet kept ⊢
      obtain ⟨next, left⟩ := taken
      obtain rfl : left = holdings := kept
      exact runs_of_isQuiet quiet held
  | false =>
      cases errand with
      | starting classes startup =>
          exact runs_afterStartup classes
            (Startup.runs_take held fits.1 waits serial response)
      | closing way =>
          rw [Closing.afterResponse_of_call? waits running serial response]
          have runs := Closing.runs_take held fits response
          exact ⟨runs.held, runs.fits⟩
      | _ => cases kind

/-- An errand that is over leaves nothing running without a page, unless it has
started the engine and a fault that is not the engine's has cut it short. -/
theorem not_stranded_take {errand : Errand} {call : Call}
    (held : running.HeldBy holdings) (fits : errand.Fits options running)
    (waits : errand.call? options = some call) (serial : Nat)
    {response : Response}
    (sound : errand.isStarting = true → ∀ fault,
      response = Response.failed fault → isEngineFault fault = true)
    (settled : errand.isStarting = false → ¬ Stranded holdings running)
    (finishes : (errand.take holdings serial response).1.isStarting = false) :
    ¬ Stranded (errand.take holdings serial response).2
      ((running.afterResponse serial call response).told
        ((errand.take holdings serial response).1.call? options)) := by
  cases kind : errand.isQuiet with
  | true =>
      obtain ⟨_, kept, unheard⟩ :=
        @take_of_isQuiet options holdings running _ _ kind waits serial response
      rw [kept, unheard]
      exact not_stranded_told (settled (isStarting_of_isQuiet kind)) _
  | false =>
      cases errand with
      | starting classes startup =>
          refine not_stranded_told ?_ _
          cases next : (startup.take holdings serial response).1 with
          | finished outcome =>
              exact Startup.not_stranded_of_take held fits.1 waits serial
                (sound rfl) next
          | _ =>
              rw [take] at finishes
              simp only [next] at finishes
              cases finishes
      | closing way =>
          rw [Closing.afterResponse_of_call? waits running serial response]
          exact Closing.not_stranded_take held fits (settled rfl) response
      | _ => cases kind

theorem call?_ne_none_of_isStarting {errand : Errand}
    (fits : errand.Fits options running) (starts : errand.isStarting = true) :
    errand.call? options ≠ none := by
  cases errand with
  | starting classes startup => exact fits.2
  | _ => cases starts

end Errand

end Browser

/-! ## A resolver and what runs -/

open Browser

/-- A resolver together with what runs. -/
structure Watched where
  resolver : BrowserResolver
  running : Running

namespace BrowserResolver

/-- The errand that an event begins or goes on with. -/
def turn? (resolver : BrowserResolver) : Event → Option Nat
  | Event.answer errand _ => some errand
  | Event.advance => resolver.line.head?
  | _ => some resolver.errands.length

def isResting (resolver : BrowserResolver) : Bool :=
  resolver.errands.all fun errand => (errand.call? resolver.options).isNone

def Event.begins : Event → Bool
  | Event.answer _ _ => false
  | Event.advance => false
  | _ => true

def Event.asksContext : Event → Bool
  | Event.create _ => true
  | _ => false

end BrowserResolver

namespace Watched

open BrowserResolver

def create (options : Options) : Watched :=
  ⟨BrowserResolver.create options, Running.nothing⟩

/-- What runs when an answer has come in. -/
def heard (watched : Watched) : Event → Running
  | Event.answer errand response =>
      match watched.resolver.call? errand with
      | some call =>
          watched.running.afterResponse watched.resolver.serial call response
      | none => watched.running
  | _ => watched.running

def step (watched : Watched) (event : Event) : Watched :=
  let next := watched.resolver.step event
  ⟨next,
    (watched.heard event).told
      ((watched.resolver.turn? event).bind next.call?)⟩

def run (watched : Watched) (events : List Event) : Watched :=
  events.foldl step watched

@[simp]
theorem run_nil (watched : Watched) : watched.run [] = watched :=
  rfl

@[simp]
theorem run_cons (watched : Watched) (event : Event) (events : List Event) :
    watched.run (event :: events) = (watched.step event).run events :=
  rfl

theorem run_append (watched : Watched) (first second : List Event) :
    watched.run (first ++ second) = (watched.run first).run second :=
  List.foldl_append

/-- To watch a resolver changes nothing of what it does. -/
theorem resolver_run (watched : Watched) (events : List Event) :
    (watched.run events).resolver = watched.resolver.run events := by
  induction events generalizing watched with
  | nil => rfl
  | cons event events inductionHypothesis =>
      exact inductionHypothesis (watched.step event)

end Watched

end UtilityCss

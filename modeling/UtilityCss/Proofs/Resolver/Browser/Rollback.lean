import Mathlib.Data.List.Infix
import UtilityCss.Proofs.Fault
import UtilityCss.Proofs.Resolver.Browser.Ascent
import UtilityCss.Proofs.Resolver.Browser.Watch

/-!
# Startups that are undone

A startup may begin beside things that run already, held or not.  Whatever it
brings up it also holds, so the way down after an error of the engine ends all
of it, and what is left has run before.  The error that sets off the way down is
the one that is reported; only a launch that took too long is forgiven, and no
more than twice.
-/

namespace UtilityCss.Browser

/-! ## Exchanges -/

/-- A call and its answer. -/
structure Exchange where
  call : Call
  response : Response

def Call.isLaunch : Call → Bool
  | Call.launch _ _ _ _ => true
  | _ => false

/-- The call brings up the engine. -/
def Call.isStartup : Call → Bool
  | Call.start => true
  | Call.launch _ _ _ _ => true
  | Call.newPage _ => true
  | Call.setContent _ _ => true
  | _ => false

def Response.isFailed : Response → Bool
  | Response.failed _ => true
  | _ => false

def Response.timedOut : Response → Bool
  | Response.failed fault => isTimeout fault
  | _ => false

def launches (exchanges : List Exchange) : Nat :=
  exchanges.countP fun exchange => exchange.call.isLaunch

/-- Whether an error of the engine in answer to a call is one that a conversion
does not survive.  A launch that took too long is tried again twice. -/
def Fatal (earlier : List Exchange) (timedOut : Bool) : Call → Prop
  | Call.start => True
  | Call.launch _ _ _ _ => timedOut = true → 2 ≤ launches earlier
  | Call.newPage _ => True
  | Call.setContent _ _ => True
  | Call.attach _ _ _ => True
  | Call.compute _ _ => True
  | _ => False

/-- The engine has answered the call with a fatal error of its own. -/
def Harm (exchanges : List Exchange) (call : Call) (text : String) : Prop :=
  ∃ earlier timedOut later,
    exchanges =
        earlier ++
          ⟨call, Response.failed (Fault.engine timedOut text)⟩ :: later ∧
      Fatal earlier timedOut call

/-- A driver stops when it is told to, and a browser fails to close with an
error of the engine at most. -/
def Exchange.Gentle : Exchange → Prop
  | ⟨Call.stopDriver _, Response.failed _⟩ => False
  | ⟨Call.closeBrowser _, Response.failed fault⟩ => isEngineFault fault = true
  | _ => True

def Docile (exchanges : List Exchange) : Prop :=
  ∀ exchange ∈ exchanges, exchange.Gentle

/-- A launch is followed by another one only if it took too long, and by no
more than two in all. -/
structure Retried (exchanges : List Exchange) : Prop where
  again : exchanges.Pairwise fun earlier later =>
    earlier.call.isLaunch = true → later.call.isLaunch = true →
      earlier.response.timedOut = true
  few : launches exchanges ≤ 3

/-- So many launches have been tried, and all of them took too long. -/
structure Trying (exchanges : List Exchange) (tried : Nat) : Prop where
  slow : ∀ exchange ∈ exchanges, exchange.call.isLaunch = true →
    exchange.response.timedOut = true
  count : launches exchanges = tried

def Harmless (exchanges : List Exchange) : Prop :=
  ∀ call text, ¬ Harm exchanges call text

section Exchanges

variable {exchanges : List Exchange} {call : Call} {response : Response}
  {tried : Nat}

theorem launches_concat_of_isLaunch (launch : call.isLaunch = true) :
    launches (exchanges ++ [⟨call, response⟩]) = launches exchanges + 1 := by
  rw [launches, List.countP_append, List.countP_singleton, launch, if_pos rfl]
  rfl

theorem launches_concat_of_not (other : call.isLaunch = false) :
    launches (exchanges ++ [⟨call, response⟩]) = launches exchanges := by
  rw [launches, List.countP_append, List.countP_singleton, other,
    if_neg Bool.false_ne_true]
  rfl

theorem harmless_nil : Harmless [] := by
  rintro call text ⟨earlier, timedOut, later, partition, _⟩
  exact List.append_ne_nil_of_right_ne_nil _ (List.cons_ne_nil _ _)
    partition.symm

theorem trying_nil : Trying [] 0 :=
  ⟨List.forall_mem_nil _, rfl⟩

/-- Harm is old, or the last answer has done it. -/
theorem Harm.of_concat {harmed : Call} {text : String}
    (harm : Harm (exchanges ++ [⟨call, response⟩]) harmed text) :
    Harm exchanges harmed text ∨
      call = harmed ∧ ∃ timedOut,
        response = Response.failed (Fault.engine timedOut text) ∧
          Fatal exchanges timedOut call := by
  obtain ⟨earlier, timedOut, later, partition, fatal⟩ := harm
  rcases List.eq_nil_or_concat later with rfl | ⟨others, last, rfl⟩
  · obtain ⟨rfl, same⟩ := List.append_inj' partition rfl
    have same : (⟨call, response⟩ : Exchange) = _ := (List.cons.inj same).1
    cases same
    exact Or.inr ⟨rfl, timedOut, rfl, fatal⟩
  · rw [List.concat_eq_append, ← List.cons_append, ← List.append_assoc]
      at partition
    obtain ⟨rfl, _⟩ := List.append_inj' partition rfl
    exact Or.inl ⟨earlier, timedOut, others, rfl, fatal⟩

theorem Harmless.concat (harmless : Harmless exchanges)
    (mild : ∀ timedOut text,
      response = Response.failed (Fault.engine timedOut text) →
        ¬ Fatal exchanges timedOut call) :
    Harmless (exchanges ++ [⟨call, response⟩]) := by
  intro harmed text harm
  rcases harm.of_concat with old | ⟨rfl, timedOut, failed, fatal⟩
  · exact harmless harmed text old
  · exact mild timedOut text failed fatal

theorem Harmless.concat_of_done (harmless : Harmless exchanges)
    (done : response.isFailed = false) :
    Harmless (exchanges ++ [⟨call, response⟩]) := by
  apply harmless.concat
  rintro timedOut text rfl
  cases done

theorem Harmless.concat_of_foreign (harmless : Harmless exchanges)
    {fault : Fault} (foreign : isEngineFault fault = false) :
    Harmless (exchanges ++ [⟨call, Response.failed fault⟩]) := by
  apply harmless.concat
  rintro timedOut text same _
  cases same
  cases foreign

theorem Docile.gentle
    (docile : Docile (exchanges ++ [⟨call, response⟩])) :
    (⟨call, response⟩ : Exchange).Gentle :=
  docile _ (List.mem_append_right exchanges List.mem_cons_self)

theorem Trying.concat (trying : Trying exchanges tried)
    (other : call.isLaunch = false) :
    Trying (exchanges ++ [⟨call, response⟩]) tried := by
  refine ⟨fun exchange member launch => ?_, ?_⟩
  · rcases List.mem_append.mp member with old | new
    · exact trying.slow exchange old launch
    · obtain rfl := List.mem_singleton.mp new
      rw [other] at launch
      cases launch
  · rw [launches_concat_of_not other, trying.count]

theorem Trying.concat_of_timedOut (trying : Trying exchanges tried)
    (launch : call.isLaunch = true) (slow : response.timedOut = true) :
    Trying (exchanges ++ [⟨call, response⟩]) (tried + 1) := by
  refine ⟨fun exchange member _ => ?_, ?_⟩
  · rcases List.mem_append.mp member with old | new
    · exact trying.slow exchange old ‹_›
    · obtain rfl := List.mem_singleton.mp new
      exact slow
  · rw [launches_concat_of_isLaunch launch, trying.count]

theorem Trying.retried (trying : Trying exchanges tried) (few : tried ≤ 3) :
    Retried exchanges where
  again := List.pairwise_of_forall_mem_list
    fun earlier old _ _ launch _ => trying.slow earlier old launch
  few := by
    rw [trying.count]
    exact few

/-- After launches that all took too long there may be one more exchange of any
kind. -/
theorem Trying.retried_concat (trying : Trying exchanges tried)
    (few : tried < 3) (last : Exchange) : Retried (exchanges ++ [last]) := by
  refine ⟨List.pairwise_append.mpr ⟨(trying.retried few.le).again,
    List.pairwise_singleton _ _,
    fun earlier old _ _ launch _ => trying.slow earlier old launch⟩, ?_⟩
  have count := trying.count
  rw [launches] at count
  rw [launches, List.countP_append, List.countP_singleton]
  split <;> omega

theorem Retried.concat (retried : Retried exchanges)
    (other : call.isLaunch = false) :
    Retried (exchanges ++ [⟨call, response⟩]) := by
  refine ⟨List.pairwise_append.mpr ⟨retried.again,
    List.pairwise_singleton _ _, fun earlier _ last new _ launch => ?_⟩, ?_⟩
  · obtain rfl := List.mem_singleton.mp new
    rw [other] at launch
    cases launch
  · rw [launches_concat_of_not other]
    exact retried.few

end Exchanges

/-! ## Reports -/

/-- The kind under which a fatal error of the engine is reported. -/
def kindDue (call : Call) (text : String) : ErrorKind :=
  if "SecurityError".toList <:+: text.toList then ErrorKind.contextSecurity
  else
    match call with
    | Call.compute _ _ => ErrorKind.styleComputation
    | _ => ErrorKind.contextConstruction

/-- A report tells its trouble unless the error speaks of security; nothing else
in the text of the error counts. -/
theorem classify_report (usual : Trouble) (activity : String)
    (named : usual ≠ Trouble.unspecified) (timedOut : Bool) (text : String) :
    (report usual activity (Fault.engine timedOut text)).classify =
      Failure.ofKind
        (if "SecurityError".toList <:+: text.toList then
          ErrorKind.contextSecurity
        else usual.kind) := by
  rw [report, troubleFor, Fault.message]
  split
  · rename_i mentioned
    rw [if_pos ((Text.contains_iff_infix _ _).mp mentioned)]
    rfl
  · rename_i silent
    rw [if_neg fun mentioned =>
      silent ((Text.contains_iff_infix _ _).mpr mentioned)]
    cases usual with
    | unspecified => exact absurd rfl named
    | _ => rfl

theorem kindDue_of_isStartup {call : Call} (startup : call.isStartup = true)
    (text : String) :
    kindDue call text =
      if "SecurityError".toList <:+: text.toList then
        ErrorKind.contextSecurity
      else ErrorKind.contextConstruction := by
  cases call with
  | compute element properties => cases startup
  | _ => rfl

theorem classify_failure {call : Call} (startup : call.isStartup = true)
    (timedOut : Bool) (text : String) :
    (Startup.failure (Fault.engine timedOut text)).leavingSeries.classify =
      Failure.ofKind (kindDue call text) := by
  rw [kindDue_of_isStartup startup]
  exact classify_report Trouble.construction _ (by decide) timedOut text

/-! ## What was there before -/

/-- What runs is what ran before, or less, and the given driver and browser. -/
structure Running.Adds (before : Running) (driver browser : Option Nat)
    (running : Running) : Prop where
  drivers : running.drivers.Sublist (driver.toList ++ before.drivers)
  browsers : running.browsers.Sublist (browser.toList ++ before.browsers)

namespace Running.Adds

variable {before running : Running} {driver browser : Option Nat}

theorem refl (running : Running) : running.Adds none none running :=
  ⟨List.Sublist.refl _, List.Sublist.refl _⟩

theorem withDriver (adds : before.Adds none browser running)
    (driver : Option Nat) : before.Adds driver browser running :=
  ⟨adds.drivers.trans (List.sublist_append_right _ _), adds.browsers⟩

theorem withBrowser (adds : before.Adds driver none running)
    (browser : Option Nat) : before.Adds driver browser running :=
  ⟨adds.drivers, adds.browsers.trans (List.sublist_append_right _ _)⟩

theorem start (adds : before.Adds none browser running) (serial : Nat) :
    before.Adds (some serial) browser
      { running with drivers := serial :: running.drivers } :=
  ⟨adds.drivers.cons_cons serial, adds.browsers⟩

theorem launch (adds : before.Adds driver none running) (serial : Nat) :
    before.Adds driver (some serial)
      { running with browsers := serial :: running.browsers } :=
  ⟨adds.drivers, adds.browsers.cons_cons serial⟩

theorem stop {held : Nat} (adds : before.Adds (some held) browser running) :
    before.Adds none browser
      { running with drivers := running.drivers.erase held } := by
  have stopped := adds.drivers.erase held
  rw [Option.toList_some, List.singleton_append, List.erase_cons_head]
    at stopped
  exact ⟨stopped, adds.browsers⟩

theorem close {held : Nat} (adds : before.Adds driver (some held) running) :
    before.Adds driver none
      { running with browsers := running.browsers.erase held } := by
  have closed := adds.browsers.erase held
  rw [Option.toList_some, List.singleton_append, List.erase_cons_head]
    at closed
  exact ⟨adds.drivers, closed⟩

end Running.Adds

/-! ## The way down -/

namespace Closing

variable {before running : Running} {holdings : Holdings} {closing : Closing}

/-- What still runs on the way down, beside what ran before. -/
def Sinks (before running : Running) : Closing × Holdings → Prop
  | (browser _, holdings) => before.Adds holdings.driver none running
  | (driver _, _) => before.Adds none none running
  | (finished (Except.ok _), holdings) =>
      holdings = Holdings.nothing ∧ before.Adds none none running
  | (finished (Except.error _), _) => True

theorem sinks_fromDriver (adds : before.Adds holdings.driver none running) :
    Sinks before (running.told (fromDriver holdings).1.call?)
      (fromDriver holdings) := by
  rw [fromDriver]
  cases known : holdings.driver with
  | none =>
      rw [known] at adds
      exact ⟨rfl, adds⟩
  | some driver =>
      rw [known] at adds
      exact adds.stop

theorem sinks_start
    (adds : before.Adds holdings.driver holdings.browser running) :
    Sinks before (running.told (start holdings).1.call?) (start holdings) := by
  rw [start]
  cases known : holdings.browser with
  | none =>
      rw [known] at adds
      exact sinks_fromDriver adds
  | some browser =>
      rw [known] at adds
      exact adds.close

theorem sinks_take (sinks : Sinks before running (closing, holdings))
    {call : Call} (waits : closing.call? = some call) (response : Response) :
    Sinks before
      (running.told (closing.take holdings response).1.call?)
      (closing.take holdings response) := by
  cases closing with
  | browser held =>
      have next := sinks_fromDriver sinks
      cases response with
      | failed fault =>
          rw [take]
          split
          · exact next
          · trivial
      | _ => exact next
  | driver held =>
      cases response with
      | failed fault => trivial
      | _ => exact ⟨rfl, sinks⟩
  | finished outcome => cases waits

/-- Only an answer that the engine does not give when it is docile cuts the way
down short. -/
theorem not_gentle_of_take {call : Call} (waits : closing.call? = some call)
    {response : Response} {fault : Fault}
    (cut : (closing.take holdings response).1 =
      finished (Except.error fault)) :
    ¬ (⟨call, response⟩ : Exchange).Gentle := by
  have going : (fromDriver holdings).1 ≠ finished (Except.error fault) := by
    rw [fromDriver]
    split <;> simp
  cases closing with
  | browser held =>
      obtain rfl := Option.some.inj waits
      cases response with
      | failed other =>
          rw [take] at cut
          split at cut
          · exact absurd cut going
          · rename_i foreign
            exact foreign
      | _ => exact absurd cut going
  | driver held =>
      obtain rfl := Option.some.inj waits
      cases response with
      | failed other => exact id
      | _ => cases cut
  | finished outcome => cases waits

theorem not_fatal_of_call? {call : Call} (waits : closing.call? = some call)
    {earlier : List Exchange} {timedOut : Bool} :
    ¬ Fatal earlier timedOut call := by
  cases closing with
  | finished outcome => cases waits
  | _ =>
      obtain rfl := Option.some.inj waits
      exact id

theorem isLaunch_of_call? {call : Call} (waits : closing.call? = some call) :
    call.isLaunch = false := by
  cases closing with
  | finished outcome => cases waits
  | _ =>
      obtain rfl := Option.some.inj waits
      rfl

theorem start_ne_error (holdings : Holdings) (fault : Fault) :
    (start holdings).1 ≠ finished (Except.error fault) := by
  rw [start, fromDriver]
  split
  · simp
  · split <;> simp

end Closing

/-! ## The way up -/

namespace Startup

variable {before running : Running} {holdings : Holdings} {startup : Startup}
  {exchanges : List Exchange} {cause : Fault}

/-- The fault is the only harm that was done, and done to the startup. -/
def Blames (exchanges : List Exchange) (cause : Fault) : Prop :=
  ∀ call text, Harm exchanges call text →
    call.isStartup = true ∧ ∃ timedOut, cause = Fault.engine timedOut text

/-- The startup has been undone because of an error with the given text. -/
structure Undone (before : Running) (call : Call) (text : String)
    (fault : Fault) (holdings : Holdings) (running : Running) : Prop where
  startup : call.isStartup = true
  cause : ∃ timedOut, fault = failure (Fault.engine timedOut text)
  empty : holdings = Holdings.nothing
  left : before.Adds none none running

/-- Where a startup is, beside what ran before it. -/
inductive Climbs (before : Running) :
    Startup × Holdings → Running → List Exchange → Prop
  | starting {holdings : Holdings} {running : Running}
      (adds : before.Adds none none running) :
      Climbs before (starting, holdings) running []
  | launching {holdings : Holdings} {running : Running}
      {exchanges : List Exchange} {driver tried : Nat}
      (adds : before.Adds holdings.driver none running)
      (harmless : Harmless exchanges)
      (trying : Trying exchanges tried) (few : tried < 3) :
      Climbs before (launching driver (tried + 1), holdings) running exchanges
  | resting {holdings : Holdings} {running : Running}
      {exchanges : List Exchange} {driver tried : Nat}
      (adds : before.Adds holdings.driver none running)
      (harmless : Harmless exchanges)
      (trying : Trying exchanges tried) (few : tried < 3) :
      Climbs before (resting driver tried, holdings) running exchanges
  | opening {holdings : Holdings} {running : Running}
      {exchanges : List Exchange} {browser : Nat}
      (adds : before.Adds holdings.driver holdings.browser running)
      (harmless : Harmless exchanges)
      (retried : Retried exchanges) :
      Climbs before (opening browser, holdings) running exchanges
  | filling {holdings : Holdings} {running : Running}
      {exchanges : List Exchange} {page : Nat}
      (adds : before.Adds holdings.driver holdings.browser running)
      (harmless : Harmless exchanges)
      (retried : Retried exchanges) :
      Climbs before (filling page, holdings) running exchanges
  | undoing {holdings : Holdings} {running : Running}
      {exchanges : List Exchange} {closing : Closing} {cause : Fault}
      (going : closing.call? ≠ none)
      (sinks : Closing.Sinks before running (closing, holdings))
      (blames : Blames exchanges cause)
      (retried : Retried exchanges) :
      Climbs before (undoing closing cause, holdings) running exchanges
  | ready {holdings : Holdings} {running : Running}
      {exchanges : List Exchange} {page : Nat}
      (harmless : Harmless exchanges)
      (retried : Retried exchanges) :
      Climbs before (finished (Except.ok page), holdings) running exchanges
  | failed {holdings : Holdings} {running : Running}
      {exchanges : List Exchange} {fault : Fault}
      (undone : ∀ call text, Harm exchanges call text → Docile exchanges →
        Undone before call text fault holdings running)
      (retried : Retried exchanges) :
      Climbs before (finished (Except.error fault), holdings) running exchanges

theorem call?_undo (options : Options) (cause : Fault)
    (way : Closing × Holdings) :
    (undo cause way).1.call? options = way.1.call? := by
  obtain ⟨closing, left⟩ := way
  cases closing with
  | finished outcome => cases outcome <;> rfl
  | _ => rfl

theorem climbs_undo {way : Closing × Holdings}
    (sinks : Closing.Sinks before running way)
    (blames : Blames exchanges cause) (retried : Retried exchanges)
    (cut : ∀ fault, way.1 = Closing.finished (Except.error fault) →
      ¬ Docile exchanges) :
    Climbs before (undo cause way) running exchanges := by
  obtain ⟨closing, left⟩ := way
  cases closing with
  | browser browser =>
      exact Climbs.undoing (Option.some_ne_none _) sinks blames retried
  | driver driver =>
      exact Climbs.undoing (Option.some_ne_none _) sinks blames retried
  | finished outcome =>
      cases outcome with
      | error fault =>
          exact Climbs.failed
            (fun _ _ _ docile => absurd docile (cut fault rfl)) retried
      | ok ended =>
          obtain ⟨empty, left⟩ := sinks
          refine Climbs.failed (fun call text harm _ => ?_) retried
          obtain ⟨startup, timedOut, rfl⟩ := blames call text harm
          exact ⟨startup, ⟨timedOut, rfl⟩, empty, left⟩

/-- A startup that an error of the engine ends is undone; any other fault that
ends it does no harm in the sense above. -/
theorem climbs_fail {options : Options} {call : Call} {fault : Fault}
    (adds : before.Adds holdings.driver holdings.browser running)
    (harmless : Harmless exchanges) (startup : call.isStartup = true)
    (retried : Retried (exchanges ++ [⟨call, Response.failed fault⟩])) :
    Climbs before (fail holdings fault)
      (running.told ((fail holdings fault).1.call? options))
      (exchanges ++ [⟨call, Response.failed fault⟩]) := by
  rw [fail]
  split
  · rw [call?_undo]
    apply climbs_undo (Closing.sinks_start adds) _ retried
    · exact fun other ended => absurd ended (Closing.start_ne_error holdings other)
    · intro harmed text harm
      rcases harm.of_concat with old | ⟨rfl, timedOut, failed, _⟩
      · exact absurd old (harmless harmed text)
      · exact ⟨startup, timedOut, Response.failed.inj failed⟩
  · rename_i foreign
    refine Climbs.failed (fun harmed text harm => ?_) retried
    exact absurd harm
      (harmless.concat_of_foreign (Bool.eq_false_iff.mpr foreign) harmed text)

/-- An answer to a startup: what it brings up is held from then on, and what it
is told to end is gone. -/
theorem climbs_take {options : Options} {call : Call}
    (climbs : Climbs before (startup, holdings) running exchanges)
    (waits : startup.call? options = some call) (serial : Nat)
    (response : Response) :
    Climbs before (startup.take holdings serial response)
      ((running.afterResponse serial call response).told
        ((startup.take holdings serial response).1.call? options))
      (exchanges ++ [⟨call, response⟩]) := by
  cases climbs with
  | starting adds =>
      obtain rfl := Option.some.inj waits
      have trying : Trying [⟨Call.start, response⟩] 0 := trying_nil.concat rfl
      cases response with
      | failed fault =>
          exact climbs_fail ((adds.withDriver _).withBrowser _) harmless_nil
            rfl (trying_nil.retried_concat (by decide) _)
      | done =>
          exact Climbs.launching (adds.start serial)
            (harmless_nil.concat_of_done rfl) trying (by decide)
      | _ =>
          exact Climbs.launching (adds.withDriver _)
            (harmless_nil.concat_of_done rfl) trying (by decide)
  | @launching _ _ _ driver tried adds harmless trying few =>
      obtain rfl := Option.some.inj waits
      have retried := trying.retried_concat few
      cases response with
      | failed fault =>
          rw [take]
          split
          · rename_i again
            obtain ⟨slow, more⟩ := again
            refine Climbs.resting adds (harmless.concat ?_)
              (trying.concat_of_timedOut rfl slow) more
            rintro timedOut text same fatal
            cases same
            have late := fatal slow
            rw [trying.count] at late
            rw [mostAttempts] at more
            omega
          · exact climbs_fail (adds.withBrowser _) harmless rfl (retried _)
      | done =>
          exact Climbs.opening (adds.launch serial) (harmless.concat_of_done rfl)
            (retried _)
      | _ =>
          exact Climbs.opening (adds.withBrowser _) (harmless.concat_of_done rfl)
            (retried _)
  | @resting _ _ _ driver tried adds harmless trying few =>
      obtain rfl := Option.some.inj waits
      have rested : Harmless
          (exchanges ++ [⟨Call.pause (restSeconds tried), response⟩]) :=
        harmless.concat fun _ _ _ => id
      cases response <;>
        exact Climbs.launching adds rested (trying.concat rfl) few
  | opening adds harmless retried =>
      obtain rfl := Option.some.inj waits
      cases response with
      | failed fault =>
          exact climbs_fail adds harmless rfl (retried.concat rfl)
      | _ =>
          exact Climbs.filling adds (harmless.concat_of_done rfl)
            (retried.concat rfl)
  | filling adds harmless retried =>
      obtain rfl := Option.some.inj waits
      cases response with
      | failed fault =>
          exact climbs_fail adds harmless rfl (retried.concat rfl)
      | _ => exact Climbs.ready (harmless.concat_of_done rfl) (retried.concat rfl)
  | @undoing _ _ _ closing cause going sinks blames retried =>
      have taken : (undoing closing cause).take holdings serial response =
          undo cause (closing.take holdings response) := by
        cases response <;> rfl
      rw [taken, call?_undo, Closing.afterResponse_of_call? waits]
      apply climbs_undo (Closing.sinks_take sinks waits response)
      · intro harmed text harm
        rcases harm.of_concat with old | ⟨_, timedOut, _, fatal⟩
        · exact blames harmed text old
        · exact absurd fatal (Closing.not_fatal_of_call? waits)
      · exact retried.concat (Closing.isLaunch_of_call? waits)
      · intro fault cut docile
        exact Closing.not_gentle_of_take waits cut docile.gentle
  | ready harmless retried => cases waits
  | failed undone retried => cases waits

theorem Climbs.retried
    (climbs : Climbs before (startup, holdings) running exchanges) :
    Retried exchanges := by
  cases climbs with
  | starting adds => exact trying_nil.retried (Nat.zero_le 3)
  | launching adds harmless trying few => exact trying.retried few.le
  | resting adds harmless trying few => exact trying.retried few.le
  | opening adds harmless retried => exact retried
  | filling adds harmless retried => exact retried
  | undoing going sinks blames retried => exact retried
  | ready harmless retried => exact retried
  | failed undone retried => exact retried

theorem Climbs.exists_call
    (climbs : Climbs before (startup, holdings) running exchanges)
    (going : ∀ outcome, startup ≠ finished outcome) (options : Options) :
    ∃ call, startup.call? options = some call := by
  cases climbs with
  | undoing waits sinks blames retried =>
      exact Option.ne_none_iff_exists'.mp waits
  | ready harmless retried => exact absurd rfl (going _)
  | failed undone retried => exact absurd rfl (going _)
  | _ => exact ⟨_, rfl⟩

theorem Climbs.patient {options : Options} {call : Call}
    (climbs : Climbs before (startup, holdings) running exchanges)
    (waits : startup.call? options = some call) : startup.Patient := by
  cases climbs with
  | resting adds harmless trying few => exact few
  | undoing going sinks blames retried => exact going
  | ready harmless retried => cases waits
  | failed undone retried => cases waits
  | _ => trivial

end Startup

end UtilityCss.Browser

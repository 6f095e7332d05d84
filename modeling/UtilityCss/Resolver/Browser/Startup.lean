import UtilityCss.Resolver.Browser.Engine
import UtilityCss.Resolver.Browser.Report

/-!
# Bringing the engine up and down

A startup brings up a driver, a browser and a page, and fills the page.  When
the engine fails it, everything is brought down again before the failure is
reported; any other failure is passed on at once and leaves what is up to be
brought down later.  A launch that takes too long is tried again after a pause,
three times in all.
-/

namespace UtilityCss.Browser

/-- What the resolver holds of the engine. -/
structure Holdings where
  driver : Option Nat
  browser : Option Nat
  page : Option Nat
deriving DecidableEq, Repr

namespace Holdings

def nothing : Holdings := ⟨none, none, none⟩

end Holdings

/-- Where the engine is on its way down. -/
inductive Closing where
  | browser (browser : Nat)
  | driver (driver : Nat)
  | finished (outcome : Except Fault Unit)

namespace Closing

/-- Goes on with the driver, and forgets everything when there is none. -/
def fromDriver (holdings : Holdings) : Closing × Holdings :=
  match holdings.driver with
  | some held => (driver held, holdings)
  | none => (finished (Except.ok ()), Holdings.nothing)

def start (holdings : Holdings) : Closing × Holdings :=
  match holdings.browser with
  | some held => (browser held, holdings)
  | none => fromDriver holdings

def call? : Closing → Option Call
  | browser held => some (Call.closeBrowser held)
  | driver held => some (Call.stopDriver held)
  | finished _ => none

/-- A browser that does not close cleanly is left to itself; any other failure
ends the way down where it is. -/
def take (holdings : Holdings) : Closing → Response → Closing × Holdings
  | browser _, Response.failed fault =>
      if isEngineFault fault then fromDriver holdings
      else (finished (Except.error fault), holdings)
  | browser _, _ => fromDriver holdings
  | driver _, Response.failed fault => (finished (Except.error fault), holdings)
  | driver _, _ => (finished (Except.ok ()), Holdings.nothing)
  | finished outcome, _ => (finished outcome, holdings)

end Closing

/-- Where the engine is on its way up. -/
inductive Startup where
  | starting
  | launching (driver attempt : Nat)
  | resting (driver attempt : Nat)
  | opening (browser : Nat)
  | filling (page : Nat)
  | undoing (closing : Closing) (cause : Fault)
  | finished (outcome : Except Fault Nat)

namespace Startup

/-- The number of times that a launch is tried. -/
def mostAttempts : Nat := 3

/-- The pause after an attempt doubles from one second to ten at most. -/
def restSeconds (attempt : Nat) : Nat :=
  max 1 (min 10 (Nat.pow 2 (attempt - 1)))

def call? (options : Options) : Startup → Option Call
  | starting => some Call.start
  | launching driver _ =>
      some (Call.launch driver options.engine options.headless options.timeout)
  | resting _ attempt => some (Call.pause (restSeconds attempt))
  | opening browser => some (Call.newPage browser)
  | filling page => some (Call.setContent page options.document)
  | undoing closing _ => closing.call?
  | finished _ => none

/-- The report of a startup that the engine has failed. -/
def failure (cause : Fault) : Fault :=
  report Trouble.construction "Could not start browser" cause

/-- Goes on bringing everything down after a failure; when that is done the
failure is reported, and when it fails in turn only that is told. -/
def undo (cause : Fault) : Closing × Holdings → Startup × Holdings
  | (Closing.finished (Except.ok ()), holdings) =>
      (finished (Except.error (failure cause)), holdings)
  | (Closing.finished (Except.error fault), holdings) =>
      (finished (Except.error fault), holdings)
  | (closing, holdings) => (undoing closing cause, holdings)

def fail (holdings : Holdings) (fault : Fault) : Startup × Holdings :=
  if isEngineFault fault then undo fault (Closing.start holdings)
  else (finished (Except.error fault), holdings)

/-- How the startup goes on after an answer, which gives its serial number to
whatever it brings up. -/
def take (holdings : Holdings) (serial : Nat) : Startup → Response → Startup × Holdings
  | undoing closing cause, response => undo cause (closing.take holdings response)
  | finished outcome, _ => (finished outcome, holdings)
  | launching driver attempt, Response.failed fault =>
      if isTimeout fault ∧ attempt < mostAttempts then
        (resting driver attempt, holdings)
      else
        fail holdings fault
  | resting driver attempt, _ => (launching driver (attempt + 1), holdings)
  | _, Response.failed fault => fail holdings fault
  | starting, _ => (launching serial 1, { holdings with driver := some serial })
  | launching _ _, _ => (opening serial, { holdings with browser := some serial })
  | opening _, _ => (filling serial, holdings)
  | filling page, _ => (finished (Except.ok page), { holdings with page := some page })

end Startup

end UtilityCss.Browser

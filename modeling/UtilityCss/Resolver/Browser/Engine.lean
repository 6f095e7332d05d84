import UtilityCss.Fault
import UtilityCss.Property
import UtilityCss.Resolver.Browser.Options

/-!
# Calls to the rendering engine

The browser resolver drives the engine by calls, each of which is answered
once.  Drivers, browsers, pages and elements are told apart by serial numbers.
`Running` looks at the engine from outside: it keeps only what was brought up
and not yet told to end.
-/

namespace UtilityCss.Browser

inductive Call where
  /-- Brings up a driver. -/
  | start
  /-- Has a driver launch a browser. -/
  | launch (driver : Nat) (engine : Engine) (headless : Bool) (timeout : Value)
  /-- Lets some seconds pass. -/
  | pause (seconds : Nat)
  | newPage (browser : Nat)
  | setContent (page : Nat) (document : String)
  /-- Puts an element with classes into the hidden host of a page. -/
  | attach (page : Nat) (host classes : String)
  | compute (element : Nat) (properties : List String)
  /-- Takes an element out of its page. -/
  | remove (element : Nat)
  /-- Gives up the reference to an element. -/
  | dispose (element : Nat)
  | closeBrowser (browser : Nat)
  | stopDriver (driver : Nat)
deriving Repr

/-- How the engine answers a call. -/
inductive Response where
  | done
  /-- What was attached is no element. -/
  | noElement
  /-- The computed values by property. -/
  | values (entries : List (Atom × Value))
  | failed (fault : Fault)

/-- Whether a fault is an error of the engine. -/
def isEngineFault : Fault → Bool
  | Fault.engine _ _ => true
  | _ => false

/-- Whether a fault tells that the engine took too long. -/
def isTimeout : Fault → Bool
  | Fault.engine timedOut _ => timedOut
  | _ => false

/-- The drivers and browsers that run. -/
structure Running where
  drivers : List Nat
  browsers : List Nat
deriving DecidableEq, Repr

namespace Running

def nothing : Running := ⟨[], []⟩

/-- What runs after a call was made: whatever is told to end counts as ended. -/
def afterCall (running : Running) : Call → Running
  | Call.closeBrowser browser =>
      { running with browsers := running.browsers.erase browser }
  | Call.stopDriver driver => { running with drivers := running.drivers.erase driver }
  | _ => running

/-- What runs after a call was answered.  A driver or browser that was brought
up gets the serial number of the answer. -/
def afterResponse (running : Running) (serial : Nat) : Call → Response → Running
  | Call.start, Response.done => { running with drivers := serial :: running.drivers }
  | Call.launch _ _ _ _, Response.done =>
      { running with browsers := serial :: running.browsers }
  | _, _ => running

end Running

end UtilityCss.Browser

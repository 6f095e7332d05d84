import UtilityCss.Resolver.Browser.Engine

/-!
# An engine that follows a script

The scripted engine stands in for a real one in rehearsals.  It answers every
call at once, with a prepared fault where the script has one.
-/

namespace UtilityCss.Browser

structure EngineScript where
  startFault : Option Fault
  /-- The faults of the launches to come; without any left a launch succeeds. -/
  launchFaults : List (Option Fault)
  newPageFault : Option Fault
  setContentFault : Option Fault
  closeFault : Option Fault
  /-- The fault of calls that concern elements. -/
  elementFault : Option Fault
  /-- Whether what is attached is no element. -/
  attachesNoElement : Bool
  values : List (Atom × Value)
deriving Repr

namespace EngineScript

def smooth : EngineScript := ⟨none, [], none, none, none, none, false, []⟩

instance : Inhabited EngineScript := ⟨smooth⟩

def faultOr (fault : Option Fault) (response : Response) : Response :=
  match fault with
  | some fault => Response.failed fault.leavingCall
  | none => response

/-- The answer to a call, and the script for the calls after it. -/
def answer (script : EngineScript) : Call → Response × EngineScript
  | Call.start => (faultOr script.startFault Response.done, script)
  | Call.launch _ _ _ _ =>
      (faultOr script.launchFaults.head?.join Response.done,
        { script with launchFaults := script.launchFaults.tail })
  | Call.newPage _ => (faultOr script.newPageFault Response.done, script)
  | Call.setContent _ _ => (faultOr script.setContentFault Response.done, script)
  | Call.attach _ _ _ =>
      (faultOr script.elementFault
        (if script.attachesNoElement then Response.noElement else Response.done), script)
  | Call.compute _ _ =>
      (faultOr script.elementFault (Response.values script.values), script)
  | Call.remove _ => (faultOr script.elementFault Response.done, script)
  | Call.closeBrowser _ => (faultOr script.closeFault Response.done, script)
  | _ => (Response.done, script)

end EngineScript

end UtilityCss.Browser

import UtilityCss.Fault

/-!
# Reports of the browser resolver

The resolver reports an error of the engine as trouble with what it was doing.
When the text of the error speaks of security, access is the trouble whatever
the resolver was doing.
-/

namespace UtilityCss.Browser

/-- The trouble that an error with the given text is reported as. -/
def troubleFor (usual : Trouble) (message : String) : Trouble :=
  if Text.contains "SecurityError".toList message.toList then Trouble.access else usual

/-- The report of an error during an activity. -/
def report (usual : Trouble) (activity : String) (error : Fault) : Fault :=
  Fault.ofTrouble (troubleFor usual error.message) (activity ++ ": " ++ error.message)
    (some error.name)

end UtilityCss.Browser

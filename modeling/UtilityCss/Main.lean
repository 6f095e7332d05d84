import UtilityCss.CommandLine
import UtilityCss.CommandLine.Paths

/-!
# The program

The outer layer of the command line: it looks at files and variables, reads the
input, and prints.
-/

namespace UtilityCss.Program

open CommandLine

/-- What stands at a path; a path that cannot be looked at holds nothing. -/
def look (path : String) : IO (Option Entry) := do
  try
    return some (Entry.file (← IO.FS.readFile path))
  catch error =>
    match error with
    | IO.Error.inappropriateType _ _ _ => return some Entry.folder
    | IO.Error.permissionDenied _ _ _ => return some Entry.locked
    | _ => return none

def lookAll (paths : List String) : IO (List (String × Entry)) :=
  paths.eraseDups.filterMapM fun path => do
    return (← look path).map (path, ·)

/-- Surroundings in which only some paths were looked at. -/
def around (surroundings : Surroundings) (known : List (String × Entry)) : Surroundings :=
  { surroundings with
    isOverlong := fun path =>
      Path.isOverlong path || (Path.names path).any Path.isOverlongName
    entry? := fun path => (known.find? fun entry => entry.1 == path).map Prod.snd }

/-- Everything that a run looks at. -/
def lookAround (words : List String) : IO Surroundings := do
  let folder := toString (← IO.currentDir)
  let home := (← IO.getEnv "HOME").getD ""
  let values ← Configuration.Variable.all.filterMapM fun entry => do
    return (← IO.getEnv entry.1).map (entry.1, ·)
  let bare : Surroundings :=
    { Surroundings.empty with
      globalFile := home ++ "/.tw2css/config.yaml"
      folders := Path.upward folder
      environment := fun name => (values.find? fun entry => entry.1 == name).map Prod.snd }
  let first ← lookAll (firstPaths bare words)
  let later ← lookAll (laterPaths (around bare first) words)
  return around bare (first ++ later)

def print (printed : Printed) : IO Unit := do
  for text in printed.errors do IO.eprintln text
  for text in printed.output do IO.println text

/-- The whole input. -/
partial def readAll (input : IO.FS.Stream) (read : String) : IO String := do
  let line ← input.getLine
  if line.isEmpty then return read else readAll input (read ++ line)

/-- Serves line after line until the input ends or a line quits; what is in the
way of a line ends it as well. -/
partial def serve (input : IO.FS.Stream) (bench : Bench) : IO UInt32 := do
  let line ← input.getLine
  if line.isEmpty then return 0
  let mut current := bench
  for part in inputLines line do
    if Bench.LineCommand.ofLine part = Bench.LineCommand.quit then return 0
    match current.serve part with
    | (Except.ok printed, next) =>
        print printed
        current := next
    | (Except.error obstacle, _) =>
        IO.eprintln obstacle.name
        return 1
  serve input current

def finish (outcome : Outcome) : IO UInt32 := do
  print outcome.printed
  match outcome.unexpected with
  | some name => IO.eprintln name
  | none => pure ()
  return UInt32.ofNat outcome.exitCode

def main (words : List String) : IO UInt32 := do
  let surroundings ← lookAround words
  match plan surroundings words with
  | Plan.ended outcome => finish outcome
  | Plan.lines ready => do
      print ready.told
      serve (← IO.getStdin) ready.bench
  | Plan.once _ _ operands => do
      let input ← if operands.isEmpty then readAll (← IO.getStdin) "" else pure ""
      finish (run surroundings words input)

end UtilityCss.Program

def main (words : List String) : IO UInt32 :=
  UtilityCss.Program.main words

import UtilityCss.CommandLine.Outcome
import UtilityCss.Resolver.Choice
import UtilityCss.Resolver.Static
import UtilityCss.Text.Line

/-!
# Converting texts and lines

A bench holds a processor and its resolver.  It converts one text, or goes
through lines: most lines are converted, and three are commands to the bench.
-/

namespace UtilityCss.CommandLine

/-- The resolver of a bench.  The program has no rendering engine at hand, so
the browser never comes up. -/
inductive BenchResolver where
  | table (resolver : TableResolver)
  | noEngine
deriving Repr

namespace BenchResolver

def ofChoice : ResolverChoice → BenchResolver
  | ResolverChoice.table styles => table (TableResolver.create styles)
  | ResolverChoice.browser _ => noEngine

/-- What is reported of a browser that cannot be started. -/
def noEngineFault : Fault :=
  Fault.ofTrouble Trouble.construction "Could not start browser: no engine" none

def interface : Resolver BenchResolver where
  create resolver classes :=
    match resolver with
    | table inner =>
        Prod.map id table (TableResolver.interface.create inner classes)
    | noEngine => (Except.error noEngineFault, noEngine)
  compute resolver context :=
    match resolver with
    | table inner =>
        Prod.map id table (TableResolver.interface.compute inner context)
    | noEngine => (Except.error noEngineFault, noEngine)
  destroy resolver context :=
    match resolver with
    | table inner =>
        Prod.map id table (TableResolver.interface.destroy inner context)
    | noEngine => (Except.ok (), noEngine)

end BenchResolver

structure Bench where
  processor : Processor
  resolver : BenchResolver
deriving Repr

namespace Bench

def create (settings : Settings) (choice : ResolverChoice) : Bench :=
  ⟨Processor.create settings, BenchResolver.ofChoice choice⟩

def highlighting (bench : Bench) : Bool :=
  bench.processor.settings.highlighting

def convert (bench : Bench) (text : String) : Conversion × Bench :=
  let (result, processor, resolver) :=
    bench.processor.convert BenchResolver.interface bench.resolver text
  (result, ⟨processor, resolver⟩)

/-- What a line asks of the bench. -/
inductive LineCommand where
  | quit
  | reset
  | status
  | convert (text : String)
deriving DecidableEq, Repr

def LineCommand.ofLine (line : String) : LineCommand :=
  match String.ofList (Text.trim line.toList) with
  | ":quit" => quit
  | ":reset" => reset
  | ":status" => status
  | _ => convert line

/-- The state of the cache as it is printed, unless the capacity has too many
digits to be written. -/
def statusText? (status : CacheStatus) : Option String :=
  if Text.isWritable status.capacity then
    some ("Cache: " ++ toString status.size ++ "/" ++ toString status.capacity ++
      " entries, " ++ toString status.hits ++ " hits, " ++ toString status.misses ++
      " misses")
  else none

/-- What is printed for a line that does not quit, and the bench afterwards. -/
def serve (bench : Bench) (line : String) : Except Obstacle Printed × Bench :=
  match LineCommand.ofLine line with
  | LineCommand.quit => (Except.ok Printed.nothing, bench)
  | LineCommand.reset =>
      (Except.ok (Printed.toOutput ["Cache cleared."]),
        { bench with processor := bench.processor.reset })
  | LineCommand.status =>
      match statusText? bench.processor.status with
      | some text => (Except.ok (Printed.toOutput [text]), bench)
      | none => (Except.error (Obstacle.unfit Value.unwritable), bench)
  | LineCommand.convert text =>
      let (result, next) := bench.convert text
      (Except.ok (Printed.ofConversion bench.highlighting result), next)

/-- Serves lines one after another until one quits or meets an obstacle. -/
def serveLines (bench : Bench) : List String → Printed × Option Obstacle
  | [] => (Printed.nothing, none)
  | line :: lines =>
      if LineCommand.ofLine line = LineCommand.quit then (Printed.nothing, none)
      else
        match bench.serve line with
        | (Except.ok printed, next) =>
            let (others, obstacle) := next.serveLines lines
            (printed ++ others, obstacle)
        | (Except.error obstacle, _) => (Printed.nothing, some obstacle)

end Bench

end UtilityCss.CommandLine

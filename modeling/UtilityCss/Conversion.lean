import UtilityCss.CacheStatus
import UtilityCss.Extraction
import UtilityCss.RecencyCache
import UtilityCss.Settings
import UtilityCss.Warnings

/-!
# Conversions of one processor

A conversion opens with the checks and the lookup, which take no time, and is
either settled at once or waits for the styles of its classes.  With the styles
it closes, again without waiting.  Whether its result is committed depends only
on whether the conversion is still wanted when it gets there.
-/

namespace UtilityCss

/-- What a processor is doing. -/
inductive Phase where
  | idle
  | validating
  | cacheHit
  | extracting
  | formatting
  | diagnosing
  | succeeded
  | failed
deriving DecidableEq, Repr

namespace Phase

/-- All phases in the order in which they are listed. -/
def all : List Phase :=
  [idle, validating, cacheHit, extracting, formatting, diagnosing, succeeded, failed]

def label : Phase → String
  | idle => "idle"
  | validating => "validating"
  | cacheHit => "cache_hit"
  | extracting => "extracting"
  | formatting => "formatting"
  | diagnosing => "diagnosing"
  | succeeded => "succeeded"
  | failed => "failed"

end Phase

/-- What a conversion gives.  There are no warnings when nothing was looked at:
for a blank text and for a failure. -/
structure Conversion where
  css : String
  failure : Option Failure
  warnings : Option (List String)
deriving DecidableEq, Repr

namespace Conversion

/-- The conversion of a blank text. -/
def blank : Conversion := ⟨"", none, none⟩

def failed (fault : Fault) : Conversion := ⟨"", some fault.classify, none⟩

/-- The conversion of sanitized classes for which the styles were found. -/
def ofStyles (classes : String) (styles : StyleValues) : Conversion :=
  let css := Block.render styles Block.defaultSelector
  ⟨css, none, some (Warnings.generate classes css)⟩

end Conversion

/-- What is still to be done for a text that was not found in the cache. -/
structure Job where
  key : String
  classes : String
deriving DecidableEq, Repr

/-- How a conversion opens. -/
inductive Opening where
  /-- The result is there. -/
  | settled (result : Conversion)
  /-- The styles have to be found first. -/
  | unresolved (job : Job)
deriving DecidableEq, Repr

/-- A processor with its cache and counters. -/
structure Processor where
  settings : Settings
  cache : RecencyCache String Conversion
  hits : Nat
  misses : Nat
  phase : Phase
deriving Repr

namespace Processor

def create (settings : Settings) : Processor where
  settings := settings
  cache := RecencyCache.empty settings.cacheCapacity
  hits := 0
  misses := 0
  phase := Phase.idle

/-- The processor after going through some phases. -/
def enter (processor : Processor) (phases : List Phase) : Processor :=
  { processor with phase := phases.getLast?.getD processor.phase }

/-- Forgets every conversion and starts counting anew. -/
def reset (processor : Processor) : Processor :=
  { processor with cache := processor.cache.clear, hits := 0, misses := 0 }

def status (processor : Processor) : CacheStatus where
  size := processor.cache.size
  capacity := processor.cache.capacity
  hits := processor.hits
  misses := processor.misses

/-- The checks and the lookup: how a conversion opens, the phases it goes
through, and the processor afterwards. -/
def opening (processor : Processor) (text : String) :
    Opening × List Phase × Processor :=
  let chars := text.toList
  if ClassText.isBlankText chars then
    let phases := [Phase.validating, Phase.succeeded]
    (Opening.settled Conversion.blank, phases, processor.enter phases)
  else
    match Guard.check processor.settings.maxInputLength chars with
    | Except.error cause =>
        let phases := [Phase.validating, Phase.failed]
        (Opening.settled (Conversion.failed (Fault.ofRejection cause)), phases,
          processor.enter phases)
    | Except.ok () =>
        let key := String.ofList (ClassText.key chars)
        match processor.cache.get? key with
        | (some found, cache) =>
            let phases := [Phase.validating, Phase.cacheHit, Phase.succeeded]
            (Opening.settled found, phases,
              { processor with cache := cache, hits := processor.hits + 1 }.enter phases)
        | (none, _) =>
            let phases := [Phase.validating, Phase.extracting]
            let classes := String.ofList (ClassText.sanitize chars)
            (Opening.unresolved ⟨key, classes⟩, phases,
              { processor with misses := processor.misses + 1 }.enter phases)

/-- The result for a job whose styles were found or not, with the phases that
lead to it. -/
def closingResult (job : Job) : Except Fault StyleValues → Conversion × List Phase
  | Except.error fault => (Conversion.failed fault, [Phase.failed])
  | Except.ok styles =>
      (Conversion.ofStyles job.classes styles,
        [Phase.formatting, Phase.diagnosing, Phase.succeeded])

/-- A conversion that is not wanted any more gives nothing. -/
def commit (wanted : Bool) (result : Conversion) : Option Conversion :=
  if wanted then some result else none

/-- The processor after a result: a success that is still wanted is remembered
under its key. -/
def remember (processor : Processor) (job : Job) (result : Conversion) (wanted : Bool) :
    Processor :=
  if wanted ∧ result.failure = none then
    { processor with cache := processor.cache.set job.key result }
  else processor

/-- Closes a job: its result, the phases it goes through, and the processor
afterwards. -/
def closing (processor : Processor) (job : Job) (outcome : Except Fault StyleValues)
    (wanted : Bool) : Conversion × List Phase × Processor :=
  let (result, phases) := closingResult job outcome
  (result, phases, (processor.enter phases).remember job result wanted)

/-- A conversion from beginning to end with a resolver that replies at once. -/
def convert {σ : Type} (processor : Processor) (resolver : Resolver σ) (state : σ)
    (text : String) : Conversion × Processor × σ :=
  match processor.opening text with
  | (Opening.settled result, _, next) => (result, next, state)
  | (Opening.unresolved job, _, next) =>
      let (outcome, later) := resolver.extract state job.classes
      let (result, _, final) := next.closing job outcome true
      (result, final, later)

end Processor

end UtilityCss

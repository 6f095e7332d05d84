import UtilityCss.Block
import UtilityCss.Fault
import UtilityCss.Value

/-!
# Extracting the styles of a class text

An extraction asks a style resolver for three things in turn: a context that
carries the class text, the styles computed in it, and the end of the context.
It may wait at each of them, so it is kept as data that takes one reply at a
time.  When no context can be made nothing else is asked; otherwise the context
is ended exactly once, and a failure to end it changes nothing.
-/

namespace UtilityCss

/-- What a styling context carries for its resolver. -/
inductive Handle where
  /-- The class names of the context. -/
  | tokens (names : List String)
  /-- An element in the page of the rendering engine. -/
  | element
  /-- A value that somebody else put there. -/
  | overwritten (value : Value)
  | missing
deriving Repr, Inhabited

/-- A hidden element that carries a class text.  Contexts are told apart by
their serial numbers. -/
structure StylingContext where
  serial : Nat
  classes : String
  handle : Handle
deriving Repr, Inhabited

/-- What an extraction asks of a resolver. -/
inductive Request where
  | create (classes : String)
  | compute (context : StylingContext)
  | destroy (context : StylingContext)
deriving Repr

/-- What a resolver replies to each of the requests. -/
inductive Reply where
  | created (outcome : Except Fault StylingContext)
  | computed (outcome : Except Fault StyleValues)
  | destroyed (outcome : Except Fault Unit)

/-- Where an extraction stands. -/
inductive Extraction where
  | creating (classes : String)
  | computing (context : StylingContext)
  | destroying (context : StylingContext) (outcome : Except Fault StyleValues)
  | ended (outcome : Except Fault StyleValues)

namespace Extraction

/-- What the extraction is waiting for. -/
def request? : Extraction → Option Request
  | creating classes => some (Request.create classes)
  | computing context => some (Request.compute context)
  | destroying context _ => some (Request.destroy context)
  | ended _ => none

/-- How the extraction goes on after a reply, if the reply answers what it
asks. -/
def take? : Extraction → Reply → Option Extraction
  | creating _, Reply.created (Except.ok context) => some (computing context)
  | creating _, Reply.created (Except.error fault) =>
      some (ended (Except.error fault.leavingSeries))
  | computing context, Reply.computed outcome => some (destroying context outcome)
  | destroying _ outcome, Reply.destroyed _ => some (ended outcome)
  | _, _ => none

def outcome? : Extraction → Option (Except Fault StyleValues)
  | ended outcome => some outcome
  | _ => none

/-- The number of replies after which the extraction has ended at the latest. -/
def remaining : Extraction → Nat
  | creating _ => 3
  | computing _ => 2
  | destroying _ _ => 1
  | ended _ => 0

end Extraction

/-- A resolver that replies at once, as functions on its state. -/
structure Resolver (σ : Type) where
  create : σ → String → Except Fault StylingContext × σ
  compute : σ → StylingContext → Except Fault StyleValues × σ
  destroy : σ → StylingContext → Except Fault Unit × σ

namespace Resolver

variable {σ : Type}

def reply (resolver : Resolver σ) (state : σ) : Request → Reply × σ
  | Request.create classes =>
      let (outcome, next) := resolver.create state classes
      (Reply.created outcome, next)
  | Request.compute context =>
      let (outcome, next) := resolver.compute state context
      (Reply.computed outcome, next)
  | Request.destroy context =>
      let (outcome, next) := resolver.destroy state context
      (Reply.destroyed outcome, next)

/-- One request of the extraction and its reply. -/
def advance (resolver : Resolver σ) (extraction : Extraction) (state : σ) :
    Extraction × σ :=
  match extraction.request? with
  | none => (extraction, state)
  | some request =>
      let (answer, next) := resolver.reply state request
      ((extraction.take? answer).getD extraction, next)

/-- At most so many requests with their replies. -/
def advanceTimes (resolver : Resolver σ) : Nat → Extraction → σ → Extraction × σ
  | 0, extraction, state => (extraction, state)
  | count + 1, extraction, state =>
      let (later, next) := resolver.advance extraction state
      resolver.advanceTimes count later next

/-- A whole extraction in one go. -/
def extract (resolver : Resolver σ) (state : σ) (classes : String) :
    Except Fault StyleValues × σ :=
  match resolver.create state classes with
  | (Except.error fault, created) => (Except.error fault.leavingSeries, created)
  | (Except.ok context, created) =>
      let (outcome, computed) := resolver.compute created context
      let (_, destroyed) := resolver.destroy computed context
      (outcome, destroyed)

/-- Taking three replies one after another is the whole extraction. -/
theorem advanceTimes_three (resolver : Resolver σ) (state : σ) (classes : String) :
    resolver.advanceTimes 3 (Extraction.creating classes) state =
      (Extraction.ended (resolver.extract state classes).1,
        (resolver.extract state classes).2) := by
  rcases created : resolver.create state classes with ⟨fault | context, next⟩
  · simp [advanceTimes, advance, extract, reply, Extraction.request?, Extraction.take?,
      created]
  · simp [advanceTimes, advance, extract, reply, Extraction.request?, Extraction.take?,
      created]

end Resolver

end UtilityCss

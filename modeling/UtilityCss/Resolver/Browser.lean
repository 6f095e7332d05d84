import UtilityCss.Resolver.Browser.Errand

/-!
# Resolving styles in a browser

The browser resolver brings up one engine when it is first needed and uses it
for all contexts.  Errands overlap: each waits for answers of the engine by
itself, and only one at a time starts the engine while the others that need a
page wait in line.
-/

namespace UtilityCss

structure BrowserResolver where
  options : Browser.Options
  holdings : Browser.Holdings
  errands : List Browser.Errand
  /-- The errand that may start the engine. -/
  starter : Option Nat
  /-- The errands that wait for it, in the order in which they came. -/
  line : List Nat
  /-- The number of answers so far. -/
  serial : Nat

namespace BrowserResolver

open Browser

def create (options : Options) : BrowserResolver :=
  ⟨options, Holdings.nothing, [], none, [], 0⟩

def isStarted (resolver : BrowserResolver) : Bool :=
  resolver.holdings.page.isSome

/-- What can happen to a resolver.  Errands are numbered in the order in which
they begin. -/
inductive Event where
  | create (classes : String)
  | compute (context : StylingContext)
  | destroy (context : StylingContext)
  | close
  /-- The engine answers the call of an errand. -/
  | answer (errand : Nat) (response : Response)
  /-- The first errand in line goes on, if nobody is starting the engine. -/
  | advance

/-- The call that an errand is waiting for. -/
def call? (resolver : BrowserResolver) (errand : Nat) : Option Call :=
  (resolver.errands[errand]?).bind (Errand.call? resolver.options)

def reply? (resolver : BrowserResolver) (errand : Nat) : Option Reply :=
  (resolver.errands[errand]?).bind Errand.reply?

/-- Begins an errand; the next free number is its own. -/
def begin (resolver : BrowserResolver) (errand : Errand) : BrowserResolver :=
  { resolver with errands := resolver.errands ++ [errand] }

def put (resolver : BrowserResolver) (number : Nat) (errand : Errand) : BrowserResolver :=
  { resolver with errands := resolver.errands.set number errand }

/-- Begins an errand that needs a page: it uses the page that is there, starts
the engine, or stands in line. -/
def beginCreate (resolver : BrowserResolver) (classes : String) : BrowserResolver :=
  let number := resolver.errands.length
  match resolver.holdings.page with
  | some page => resolver.begin (Errand.attaching classes page)
  | none =>
      if resolver.starter = none ∧ resolver.line = [] then
        { resolver with starter := some number }.begin
          (Errand.starting classes Startup.starting)
      else
        { resolver with line := resolver.line ++ [number] }.begin (Errand.queued classes)

/-- The first errand in line uses a page that has come up meanwhile, or else
starts the engine. -/
def advance (resolver : BrowserResolver) : BrowserResolver :=
  match resolver.starter, resolver.line with
  | none, number :: others =>
      match resolver.errands[number]? with
      | some (Errand.queued classes) =>
          let left := { resolver with line := others }
          match resolver.holdings.page with
          | some page => left.put number (Errand.attaching classes page)
          | none =>
              { left with starter := some number }.put number
                (Errand.starting classes Startup.starting)
      | _ => resolver
  | _, _ => resolver

/-- Goes on with an errand after an answer.  An errand that is done with
starting lets the next one start. -/
def answer (resolver : BrowserResolver) (number : Nat) (response : Response) :
    BrowserResolver :=
  match resolver.errands[number]? with
  | none => resolver
  | some errand =>
      match errand.call? resolver.options with
      | none => resolver
      | some _ =>
          let (next, holdings) := errand.take resolver.holdings resolver.serial response
          let starter :=
            if errand.isStarting ∧ !next.isStarting then none else resolver.starter
          { resolver with
            holdings := holdings
            starter := starter
            serial := resolver.serial + 1 }.put number next

/-- Begins closing; without anything to bring down it is over at once. -/
def beginClose (resolver : BrowserResolver) : BrowserResolver :=
  let (closing, holdings) := Closing.start resolver.holdings
  { resolver with holdings := holdings }.begin (Errand.closing closing)

def step (resolver : BrowserResolver) : Event → BrowserResolver
  | Event.create classes => resolver.beginCreate classes
  | Event.compute context => resolver.begin (Errand.compute context)
  | Event.destroy context => resolver.begin (Errand.destroy context)
  | Event.close => resolver.beginClose
  | Event.answer errand response => resolver.answer errand response
  | Event.advance => resolver.advance

def run (resolver : BrowserResolver) (events : List Event) : BrowserResolver :=
  events.foldl step resolver

/-- The errand that a request of an extraction begins. -/
def eventOf : Request → Event
  | Request.create classes => Event.create classes
  | Request.compute context => Event.compute context
  | Request.destroy context => Event.destroy context

end BrowserResolver

end UtilityCss

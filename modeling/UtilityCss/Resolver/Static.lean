import UtilityCss.ClassText
import UtilityCss.Extraction
import UtilityCss.StyleTable.Core

/-!
# Resolving styles from a table

The table resolver gives each context the set of its class names and finds the
styles by the cascade of its table.  It serves only contexts it has made and
not yet ended; of what others put into a context it takes nothing but a set.
-/

namespace UtilityCss

/-- A table with the serial numbers of the contexts that are attached. -/
structure TableResolver where
  table : StyleTable
  live : List Nat
  next : Nat
deriving Repr

namespace TableResolver

def create (table : StyleTable) : TableResolver := ⟨table, [], 0⟩

/-- Attaches a context with the class names of the text. -/
def attach (resolver : TableResolver) (classes : String) : StylingContext × TableResolver :=
  (⟨resolver.next, classes, Handle.tokens (ClassText.tokens classes)⟩,
    { resolver with live := resolver.next :: resolver.live, next := resolver.next + 1 })

/-- A context that somebody else made, whatever it carries; it gets a serial
number of its own. -/
def foreign (resolver : TableResolver) (classes : String)
    (handle : Handle := Handle.missing) : StylingContext × TableResolver :=
  (⟨resolver.next, classes, handle⟩, { resolver with next := resolver.next + 1 })

/-- What is said about a context that is not attached. -/
def notAttached : Fault :=
  Fault.ofTrouble Trouble.construction "Styling context is not attached" none

/-- What is said about a context that carries no set. -/
def noClassSet : Fault :=
  Fault.ofTrouble Trouble.computation "Styling context carries no class set" none

/-- The styles of an attached context that carries a set of class names. -/
def compute (resolver : TableResolver) (context : StylingContext) :
    Except Fault StyleValues :=
  if !resolver.live.contains context.serial then Except.error notAttached
  else
    match context.handle with
    | Handle.tokens names => Except.ok (resolver.table.cascade names.contains)
    | Handle.overwritten value =>
        match value.members? with
        | some members =>
            Except.ok (resolver.table.cascade fun name => members.contains (Atom.text name))
        | none => Except.error noClassSet
    | _ => Except.error noClassSet

/-- Detaches a context, attached or not, and empties it. -/
def detach (resolver : TableResolver) (context : StylingContext) :
    StylingContext × TableResolver :=
  ({ context with handle := Handle.missing },
    { resolver with live := resolver.live.filter fun serial => serial != context.serial })

def liveCount (resolver : TableResolver) : Nat :=
  resolver.live.length

/-- The table resolver as extractions use it. -/
def interface : Resolver TableResolver where
  create resolver classes :=
    let (context, next) := resolver.attach classes
    (Except.ok context, next)
  compute resolver context := (resolver.compute context, resolver)
  destroy resolver context := (Except.ok (), (resolver.detach context).2)

end TableResolver

/-! ## Contexts of a table resolver over time -/

/-- A table resolver with all contexts so far, each at the place of its serial
number. -/
structure ContextStore where
  resolver : TableResolver
  contexts : List StylingContext
deriving Repr

/-- What can be done to contexts, which are named by their serial numbers. -/
inductive ContextAction where
  | attach (classes : String)
  | foreign (classes : String) (handle : Handle := Handle.missing)
  | overwrite (serial : Nat) (value : Value)
  | compute (serial : Nat)
  | detach (serial : Nat)
deriving Repr

namespace ContextStore

def create (table : StyleTable) : ContextStore := ⟨TableResolver.create table, []⟩

def find? (store : ContextStore) (serial : Nat) : Option StylingContext :=
  store.contexts[serial]?

def put (store : ContextStore) (context : StylingContext) : ContextStore :=
  { store with contexts := store.contexts.set context.serial context }

/-- The styles of a context, if there is such a context. -/
def compute? (store : ContextStore) (serial : Nat) : Option (Except Fault StyleValues) :=
  (store.find? serial).map store.resolver.compute

/-- The store after an action; an action on a context that does not exist
changes nothing. -/
def step (store : ContextStore) : ContextAction → ContextStore
  | ContextAction.attach classes =>
      let (context, resolver) := store.resolver.attach classes
      ⟨resolver, store.contexts ++ [context]⟩
  | ContextAction.foreign classes handle =>
      let (context, resolver) := store.resolver.foreign classes handle
      ⟨resolver, store.contexts ++ [context]⟩
  | ContextAction.overwrite serial value =>
      match store.find? serial with
      | some context => store.put { context with handle := Handle.overwritten value }
      | none => store
  | ContextAction.compute _ => store
  | ContextAction.detach serial =>
      match store.find? serial with
      | some context =>
          let (emptied, resolver) := store.resolver.detach context
          { store with resolver := resolver }.put emptied
      | none => store

def run (store : ContextStore) (actions : List ContextAction) : ContextStore :=
  actions.foldl step store

end ContextStore

end UtilityCss

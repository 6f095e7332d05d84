import UtilityCss.ClassText
import UtilityCss.Extraction

/-!
# A resolver that follows a script

The scripted resolver stands in for a real one in rehearsals.  It gives
prepared styles, raises prepared faults, counts what is asked of it, and holds
back its reply for class texts behind a gate.
-/

namespace UtilityCss

/-- The three things a resolver is asked for. -/
inductive Stage where
  | create
  | compute
  | destroy
deriving DecidableEq, Repr

structure ScriptedResolver where
  styles : StyleValues
  byClass : OrderedMap String StyleValues
  createFault : Option Fault
  computeFault : Option Fault
  destroyFault : Option Fault
  created : List String
  computed : Nat
  destroyed : Nat
  closed : Bool
  gates : List String
deriving Repr

namespace ScriptedResolver

def create (styles : StyleValues) (byClass : OrderedMap String StyleValues) :
    ScriptedResolver :=
  ⟨styles, byClass, none, none, none, [], 0, 0, false, []⟩

def setFault (resolver : ScriptedResolver) (stage : Stage) (fault : Option Fault) :
    ScriptedResolver :=
  match stage with
  | Stage.create => { resolver with createFault := fault }
  | Stage.compute => { resolver with computeFault := fault }
  | Stage.destroy => { resolver with destroyFault := fault }

/-- The prepared styles, overlaid by those of each class in order. -/
def stylesOf (resolver : ScriptedResolver) (classes : String) : StyleValues :=
  (ClassText.tokens classes).foldl
    (fun values name =>
      match resolver.byClass.find? name with
      | some declarations => values.update declarations
      | none => values)
    resolver.styles

/-- A call that ends in the prepared fault, or else in the value. -/
def faultOr (fault : Option Fault) (value : α) : Except Fault α :=
  match fault with
  | some fault => Except.error fault.leavingCall
  | none => Except.ok value

/-- Makes a context and takes down its class text. -/
def attach (resolver : ScriptedResolver) (classes : String) :
    Except Fault StylingContext × ScriptedResolver :=
  match resolver.createFault with
  | some fault => (Except.error fault.leavingCall, resolver)
  | none =>
      (Except.ok ⟨resolver.created.length, classes, Handle.missing⟩,
        { resolver with created := resolver.created ++ [classes] })

/-- The styles that are prepared for a context. -/
def compute (resolver : ScriptedResolver) (context : StylingContext) :
    Except Fault StyleValues :=
  faultOr resolver.computeFault (resolver.stylesOf context.classes)

def detach (resolver : ScriptedResolver) : Except Fault Unit × ScriptedResolver :=
  (faultOr resolver.destroyFault (), { resolver with destroyed := resolver.destroyed + 1 })

/-- Takes notice of a request when it is made. -/
def note (resolver : ScriptedResolver) : Request → ScriptedResolver
  | Request.compute _ => { resolver with computed := resolver.computed + 1 }
  | _ => resolver

/-- Whether the reply to a request is held back. -/
def holds (resolver : ScriptedResolver) : Request → Bool
  | Request.compute context => resolver.gates.contains context.classes
  | _ => false

/-- The scripted resolver replying to requests that it has taken notice of. -/
def interface : Resolver ScriptedResolver where
  create resolver classes := resolver.attach classes
  compute resolver context := (resolver.compute context, resolver)
  destroy resolver _ := resolver.detach

end ScriptedResolver

end UtilityCss

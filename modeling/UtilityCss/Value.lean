import UtilityCss.Atom
import UtilityCss.OrderedMap

/-!
# Values of configuration files and style tables

A value is an atom or a collection of values whose keys and members are atoms.
Collections that contain one another form a knot: its parts are listed once,
and each link inside it names a part by its place.
-/

namespace UtilityCss

/-- What a part of a knot holds: an atom, or the part at a place. -/
inductive Link where
  | atom (content : Atom)
  | part (place : Nat)
deriving DecidableEq, Repr

/-- A collection inside a knot. -/
inductive Part where
  | list (items : List Link)
  | pairs (entries : List (Link × Link))
  | map (entries : List (Atom × Link))
  | set (members : List Atom)
deriving DecidableEq, Repr

inductive Value where
  | atom (content : Atom)
  | list (items : List Value)
  | map (entries : List (Atom × Value))
  | pair (first second : Value)
  | set (members : List Atom)
  /-- The part at a place of a knot. -/
  | knot (parts : Array Part) (place : Nat)
deriving Repr, Inhabited

namespace Part

/-- The name of the kind of a collection. -/
def typeName : Part → String
  | list _ => "list"
  | pairs _ => "list"
  | map _ => "dict"
  | set _ => "set"

def isEmpty : Part → Bool
  | list items => items.isEmpty
  | pairs entries => entries.isEmpty
  | map entries => entries.isEmpty
  | set members => members.isEmpty

end Part

namespace Value

def null : Value := atom Atom.null

def bool (truth : Bool) : Value := atom (Atom.bool truth)

def int (number : Int) : Value := atom (Atom.int number)

def text (chars : String) : Value := atom (Atom.text chars)

def ofMap (map : OrderedMap Atom Value) : Value := Value.map map.entries

/-- What a link of a knot stands for. -/
def ofLink (parts : Array Part) : Link → Value
  | Link.atom content => atom content
  | Link.part place => knot parts place

/-- The entries of a value that is a map. -/
def entries? : Value → Option (List (Atom × Value))
  | map entries => some entries
  | knot parts place =>
      match parts[place]? with
      | some (Part.map entries) =>
          some (entries.map fun entry => (entry.1, ofLink parts entry.2))
      | _ => none
  | _ => none

/-- The keys of a value are distinct if it is a map. -/
def Distinct (value : Value) : Prop :=
  ∀ entries, value.entries? = some entries →
    (⟨entries⟩ : OrderedMap Atom Value).Distinct

/-- The members of a value that is a set. -/
def members? : Value → Option (List Atom)
  | set members => some members
  | knot parts place =>
      match parts[place]? with
      | some (Part.set members) => some members
      | _ => none
  | _ => none

def isNull : Value → Bool
  | atom Atom.null => true
  | _ => false

/-- Whether a value counts as given: neither null, false, zero nor empty. -/
def isTruthy : Value → Bool
  | atom content => content.isTruthy
  | list items => !items.isEmpty
  | map entries => !entries.isEmpty
  | pair _ _ => true
  | set members => !members.isEmpty
  | knot parts place =>
      match parts[place]? with
      | some part => !part.isEmpty
      | none => false

/-- The name of the kind of a value. -/
def typeName : Value → String
  | atom Atom.null => "NoneType"
  | atom (Atom.bool _) => "bool"
  | atom (Atom.int _) => "int"
  | atom (Atom.float _) => "float"
  | atom (Atom.noNumber _) => "float"
  | atom (Atom.text _) => "str"
  | atom (Atom.codes _) => "str"
  | atom (Atom.moment time) => if time.clock.isNone then "date" else "datetime"
  | atom (Atom.bytes _) => "bytes"
  | list _ => "list"
  | map _ => "dict"
  | pair _ _ => "tuple"
  | set _ => "set"
  | knot parts place => (parts[place]?.map Part.typeName).getD "list"

/-! ## Values without knots -/

/-- The value of a link, given those of the parts that have one. -/
def linkValue? (values : Array (Option Value)) : Link → Option Value
  | Link.atom content => some (atom content)
  | Link.part place => values[place]?.join

/-- The value of a part all of whose links have one. -/
def partValue? (values : Array (Option Value)) : Part → Option Value
  | Part.list items => (items.mapM (linkValue? values)).map list
  | Part.pairs entries =>
      (entries.mapM fun (entry : Link × Link) => do
        return pair (← linkValue? values entry.1) (← linkValue? values entry.2)).map list
  | Part.map entries =>
      (entries.mapM fun (entry : Atom × Link) => do
        return (entry.1, ← linkValue? values entry.2)).map map
  | Part.set members => some (set members)

/-- The value of the first part, untied as many levels deep as there is fuel;
it is a knot only if it contains collections that contain themselves. -/
def untie (parts : Array Part) : Nat → Array (Option Value) → Value
  | 0, _ => knot parts 0
  | fuel + 1, values =>
      match values[0]?.join with
      | some value => value
      | none => untie parts fuel (parts.map (partValue? values))

/-- The value of the first of several parts. -/
def ofParts (parts : Array Part) : Value :=
  untie parts (parts.size + 2) (parts.map fun _ => none)

end Value

end UtilityCss

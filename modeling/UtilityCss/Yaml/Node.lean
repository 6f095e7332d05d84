import UtilityCss.Yaml.Token

/-!
# Nodes of documents

A document is a list of scalars, sequences and mappings, each with a tag.  Nodes
name one another by their places in the list, so an alias is the place of the
node that it stands for, also inside that node itself.
-/

namespace UtilityCss.Yaml

/-- What a node is meant to be. -/
inductive Tag where
  | null
  | bool
  | int
  | float
  | text
  | binary
  | timestamp
  | merge
  | defaultValue
  | sequence
  | mapping
  | set
  | orderedMap
  | pairs
  | other (name : String)
deriving DecidableEq, Repr

/-- The space of names that the language itself defines. -/
def coreNames : String := "tag:yaml.org,2002:"

def Tag.ofName (name : String) : Tag :=
  let known : List (String × Tag) :=
    [("null", Tag.null), ("bool", Tag.bool), ("int", Tag.int), ("float", Tag.float),
      ("str", Tag.text), ("binary", Tag.binary), ("timestamp", Tag.timestamp),
      ("merge", Tag.merge), ("value", Tag.defaultValue), ("seq", Tag.sequence),
      ("map", Tag.mapping), ("set", Tag.set), ("omap", Tag.orderedMap),
      ("pairs", Tag.pairs)]
  match known.find? fun entry => coreNames ++ entry.1 == name with
  | some (_, tag) => tag
  | none => Tag.other name

inductive Node where
  | scalar (tag : Tag) (content : Content)
  | sequence (tag : Tag) (items : List Nat)
  | mapping (tag : Tag) (entries : List (Nat × Nat))
deriving DecidableEq, Repr

namespace Node

/-- A scalar that is left out. -/
def absent : Node := scalar Tag.null (Content.text "")

instance : Inhabited Node := ⟨absent⟩

def tag : Node → Tag
  | scalar tag _ => tag
  | sequence tag _ => tag
  | mapping tag _ => tag

def withTag (tag : Tag) : Node → Node
  | scalar _ content => scalar tag content
  | sequence _ items => sequence tag items
  | mapping _ entries => mapping tag entries

end Node

/-- The nodes of a document and the place of the one that holds all others. -/
structure Document where
  nodes : Array Node
  root : Nat

end UtilityCss.Yaml

import UtilityCss.Atom.Arrangement
import UtilityCss.Value
import UtilityCss.Yaml.Content
import UtilityCss.Yaml.Node

/-!
# Values in the making

A draft holds the nodes of a document while they are turned into values.  Each
node has one value, however many aliases name it.  A scalar has its value at
once; a collection begins as an empty part and is filled later, after all the
collections that began before it.  So of several scalars without a value the
one in the outermost collection is reported, and a collection may hold itself.
-/

namespace UtilityCss.Yaml

structure Draft where
  nodes : Array Node
  /-- The values of nodes that have begun. -/
  links : Array (Option Link)
  parts : Array Part
  /-- The places of collections that began, each with its part. -/
  begun : Array (Nat × Nat)
  /-- No more entries than these ask for a merge. -/
  merges : Nat

abbrev Making := StateT Draft (Except Problem)

def reject (reason : String) : Making α :=
  throw (Problem.malformed reason)

/-- The number of entries among nodes that ask for a merge. -/
def mergeCount (nodes : Array Node) : Nat :=
  nodes.foldl
    (fun count node =>
      match node with
      | Node.mapping _ entries =>
          count + entries.countP fun entry =>
            (nodes[entry.1]?.map Node.tag) == some Tag.merge
      | _ => count)
    0

def Draft.ofDocument (document : Document) : Draft :=
  ⟨document.nodes, document.nodes.map fun _ => none, #[], #[], mergeCount document.nodes⟩

def nodeAt (place : Nat) : Making Node := do
  return (← get).nodes[place]?.getD Node.absent

def putNode (place : Nat) (node : Node) : Making Unit :=
  modify fun draft => { draft with nodes := draft.nodes.setIfInBounds place node }

def hasTag (tag : Tag) (place : Nat) : Making Bool := do
  return (← nodeAt place).tag == tag

def entriesAt (place : Nat) : Making (List (Nat × Nat)) := do
  match ← nodeAt place with
  | Node.mapping _ entries => return entries
  | _ => return []

def putEntries (place : Nat) (entries : List (Nat × Nat)) : Making Unit := do
  match ← nodeAt place with
  | Node.mapping tag _ => putNode place (Node.mapping tag entries)
  | _ => return ()

/-! ## Merging mappings -/

/-- The entries in front of the first one whose key asks for a merge, that
entry's value, and the entries behind it. -/
def splitAtMerge : List (Nat × Nat) →
    Making (Option (List (Nat × Nat) × Nat × List (Nat × Nat)))
  | [] => return none
  | entry :: entries => do
      if ← hasTag Tag.merge entry.1 then return some ([], entry.2, entries)
      else
        match ← splitAtMerge entries with
        | none => return none
        | some (before, value, behind) => return some (entry :: before, value, behind)

/-- Keys that stand for the value of their mapping become texts. -/
def settleKeys (entries : List (Nat × Nat)) : Making Unit := do
  for entry in entries do
    if ← hasTag Tag.defaultValue entry.1 then
      putNode entry.1 ((← nodeAt entry.1).withTag Tag.text)

/-- Merges mappings into the one at a place: the entries of the others come
first, and every entry that asked for a merge is gone.  Each level takes one such
entry away for good, so their number bounds the depth. -/
def mergeInto (merged : List (Nat × Nat)) (place : Nat) : Nat → Making Unit
  | 0 => reject "merged too deeply"
  | fuel + 1 => do
      let entries ← entriesAt place
      match ← splitAtMerge entries with
      | none => do
          settleKeys entries
          if !merged.isEmpty then putEntries place (merged ++ entries)
      | some (before, value, behind) => do
          putEntries place (before ++ behind)
          let others ←
            match ← nodeAt value with
            | Node.mapping _ _ => do
                mergeInto [] value fuel
                entriesAt value
            | Node.sequence _ items => do
                let lists ← items.mapM fun item => do
                  match ← nodeAt item with
                  | Node.mapping _ _ => do
                      mergeInto [] item fuel
                      entriesAt item
                  | _ => reject "only mappings can be merged"
                pure lists.reverse.flatten
            | Node.scalar _ _ => reject "only mappings can be merged"
          mergeInto (merged ++ others) place fuel

/-- The entries of the mapping at a place after everything is merged into it. -/
def flatEntries (place : Nat) : Making (List (Nat × Nat)) := do
  mergeInto [] place ((← get).merges + 1)
  entriesAt place

/-! ## Beginning -/

/-- The content of a node as a scalar: a mapping has the content of the first
value whose key stands for it.  A mapping that leads back to itself has none. -/
def contentAt (place : Nat) : Nat → Making Content
  | 0 => throw (Problem.unusable "RecursionError" "maximum recursion depth exceeded")
  | fuel + 1 => do
      match ← nodeAt place with
      | Node.scalar _ content => return content
      | Node.sequence _ _ => reject "expected a scalar"
      | Node.mapping _ entries => do
          match ← entries.findM? fun entry => hasTag Tag.defaultValue entry.1 with
          | some entry => contentAt entry.2 fuel
          | none => reject "expected a scalar"

/-- What is said about a collection in place of the text of a moment. -/
def noMomentText : Making α :=
  throw (Problem.unusable "TypeError" "expected string or bytes-like object, got 'list'")

/-- The value of a node that is no collection by its tag. -/
def atomAt (place : Nat) : Making Atom := do
  let node ← nodeAt place
  match node.tag with
  | Tag.other _ => reject "a tag has no meaning"
  | Tag.merge => reject "a tag has no meaning"
  | Tag.defaultValue => reject "a tag has no meaning"
  | tag => do
      let content ← contentAt place ((← get).nodes.size + 1)
      match tag, node with
      | Tag.timestamp, Node.mapping _ _ => noMomentText
      | _, _ => atomOf tag place content

/-- A collection with a tag before it is filled. -/
def emptyPart? : Tag → Option Part
  | Tag.sequence => some (Part.list [])
  | Tag.orderedMap => some (Part.pairs [])
  | Tag.pairs => some (Part.pairs [])
  | Tag.mapping => some (Part.map [])
  | Tag.set => some (Part.set [])
  | _ => none

/-- The value of the node at a place, begun if it has not begun before. -/
def linkAt (place : Nat) : Making Link := do
  match (← get).links[place]?.join with
  | some link => return link
  | none => do
      let link ←
        match emptyPart? (← nodeAt place).tag with
        | some part => do
            let partPlace := (← get).parts.size
            modify fun draft =>
              { draft with
                parts := draft.parts.push part
                begun := draft.begun.push (place, partPlace) }
            pure (Link.part partPlace)
        | none => pure (Link.atom (← atomAt place))
      modify fun draft => { draft with links := draft.links.setIfInBounds place (some link) }
      return link

/-! ## Filling -/

/-- The entries of a map from those of a mapping; only atoms are keys. -/
def mapEntries (place : Nat) : Making (OrderedMap Atom Link) := do
  match ← nodeAt place with
  | Node.mapping _ _ => do
      let mut map : OrderedMap Atom Link := OrderedMap.empty
      for entry in ← flatEntries place do
        match ← linkAt entry.1 with
        | Link.atom key => map := map.insert key (← linkAt entry.2)
        | Link.part _ => reject "a collection cannot be a key"
      return map
  | _ => reject "expected a mapping"

/-- The only entry of a mapping, as a pair. -/
def pairAt (place : Nat) : Making (Link × Link) := do
  match ← nodeAt place with
  | Node.mapping _ [(key, value)] => return (← linkAt key, ← linkAt value)
  | _ => reject "expected a mapping of one entry"

def itemsAt (place : Nat) : Making (List Nat) := do
  match ← nodeAt place with
  | Node.sequence _ items => return items
  | _ => reject "expected a sequence"

/-- What the collection at a place holds. -/
def filledPart (place : Nat) : Making Part := do
  match (← nodeAt place).tag with
  | Tag.sequence => Part.list <$> (← itemsAt place).mapM linkAt
  | Tag.mapping => return Part.map (← mapEntries place).entries
  | Tag.set => return Part.set (Atom.arranged (← mapEntries place).keys)
  | _ => Part.pairs <$> (← itemsAt place).mapM pairAt

/-- Fills the collections from the given one on, in the order in which they
began; every node begins once at most. -/
def fillFrom (index : Nat) : Nat → Making Unit
  | 0 => return ()
  | fuel + 1 => do
      match (← get).begun[index]? with
      | none => return ()
      | some (place, partPlace) => do
          let part ← filledPart place
          modify fun draft =>
            { draft with parts := draft.parts.setIfInBounds partPlace part }
          fillFrom (index + 1) fuel

/-- The value of the node that holds all others. -/
def rootValue (root : Nat) : Making Value := do
  match ← linkAt root with
  | Link.atom content => return Value.atom content
  | Link.part _ => do
      fillFrom 0 ((← get).nodes.size + 1)
      return Value.ofParts (← get).parts

end UtilityCss.Yaml

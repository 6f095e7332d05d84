import UtilityCss.Yaml.Implicit
import UtilityCss.Yaml.Token.Lexer

/-!
# Documents from tokens

Reads the single document of a text.  A text without a document has no node,
and more than one document is a problem.
-/

namespace UtilityCss.Yaml

structure Builder where
  tokens : List Token
  /-- The problem behind the last token. -/
  failure : Problem
  handles : List (String × String)
  /-- The anchors that were given, each with the place of its node. -/
  anchors : List (String × Nat)
  nodes : Array Node
  /-- The number of collections around the current token. -/
  depth : Nat

abbrev Build := StateT Builder (Except Problem)

def refuse (reason : String) : Build α :=
  throw (Problem.malformed reason)

/-- The next token. -/
def look : Build Token := do
  let builder ← get
  match builder.tokens with
  | token :: _ => return token
  | [] => throw builder.failure

def drop : Build Unit :=
  modify fun builder => { builder with tokens := builder.tokens.tail }

/-- Adds a node and gives its place. -/
def addNode (node : Node) : Build Nat := do
  let place := (← get).nodes.size
  modify fun builder => { builder with nodes := builder.nodes.push node }
  return place

/-- The place of a value that is left out. -/
def absentNode : Build Nat := addNode Node.absent

def defaultHandles : List (String × String) := [("!", "!"), ("!!", coreNames)]

/-- The name that a tag stands for. -/
def tagName (text : TagText) : Build String := do
  match text.handle with
  | none => return text.suffix
  | some handle =>
      match (← get).handles.find? fun entry => entry.1 == handle with
      | some (_, meaning) => return meaning ++ text.suffix
      | none => refuse "a tag has an unknown handle"

/-- The anchor and the tag in front of a node, in either order. -/
def properties : Build (Option String × Option TagText) := do
  match ← look with
  | Token.anchor name => do
      drop
      match ← look with
      | Token.tag text => do
          drop
          return (some name, some text)
      | _ => return (some name, none)
  | Token.tag text => do
      drop
      match ← look with
      | Token.anchor name => do
          drop
          return (some name, some text)
      | _ => return (none, some text)
  | _ => return (none, none)

def anchorAs (name : Option String) (place : Nat) : Build Unit := do
  match name with
  | none => return ()
  | some name =>
      modify fun builder => { builder with anchors := (name, place) :: builder.anchors }

/-- An anchor may be given once. -/
def checkAnchor (name : Option String) : Build Unit := do
  match name with
  | none => return ()
  | some name =>
      if (← get).anchors.any fun entry => entry.1 == name then
        refuse "an anchor is given twice"

def aliased (name : String) : Build Nat := do
  match (← get).anchors.find? fun entry => entry.1 == name with
  | some (_, place) => return place
  | none => refuse "an alias names nothing"

/-- The tag of a scalar: its own, or by its form if it is plain, or text. -/
def scalarTag (name : Option String) (plain : Bool) (content : Content) : Tag :=
  match name with
  | none => if plain then implicitTag content else Tag.text
  | some name => if name = "!" then implicitTag content else Tag.ofName name

def collectionTag (name : Option String) (usual : Tag) : Tag :=
  match name with
  | none => usual
  | some name => if name = "!" then usual else Tag.ofName name

/-- The most collections that may stand inside one another. -/
def deepest : Nat := 490

/-- Reads what a collection at a place holds. -/
def inside (place : Nat) (contents : Build Node) : Build Nat := do
  if deepest ≤ (← get).depth then
    throw (Problem.unusable "RecursionError" "maximum recursion depth exceeded")
  modify fun builder => { builder with depth := builder.depth + 1 }
  let node ← contents
  modify fun builder =>
    { builder with depth := builder.depth - 1, nodes := builder.nodes.setIfInBounds place node }
  return place

mutual

/-- The place of a node; `block` allows block collections, and `indentless` a sequence whose
entries stand at the column of the mapping around it. -/
def node (block indentless : Bool) : Nat → Build Nat
  | 0 => refuse "too deep"
  | fuel + 1 => do
      if let Token.alias name ← look then
        drop
        return ← aliased name
      let (anchor, tagText) ← properties
      let name ← tagText.mapM tagName
      discard look
      checkAnchor anchor
      let begin (node : Node) : Build Nat := do
        let place ← addNode node
        anchorAs anchor place
        return place
      let sequence (items : Build (List Nat)) : Build Nat := do
        let tag := collectionTag name Tag.sequence
        inside (← begin (Node.sequence tag [])) (Node.sequence tag <$> items)
      let mapping (entries : Build (List (Nat × Nat))) : Build Nat := do
        let tag := collectionTag name Tag.mapping
        inside (← begin (Node.mapping tag [])) (Node.mapping tag <$> entries)
      let scalar (plain : Bool) (content : Content) : Build Nat :=
        begin (Node.scalar (scalarTag name plain content) content)
      match ← look with
      | Token.blockEntry =>
          if indentless then sequence (indentlessItems fuel)
          else if anchor.isSome ∨ tagText.isSome then scalar true (Content.text "")
          else refuse "expected a node"
      | Token.scalar plain content => do
          drop
          scalar plain content
      | Token.flowSequenceStart => do
          drop
          sequence (flowItems true fuel)
      | Token.flowMappingStart => do
          drop
          mapping (flowEntries true fuel)
      | token =>
          if block ∧ token = Token.blockSequenceStart then do
            drop
            sequence (blockItems fuel)
          else if block ∧ token = Token.blockMappingStart then do
            drop
            mapping (blockEntries fuel)
          else if anchor.isSome ∨ tagText.isSome then scalar true (Content.text "")
          else refuse "expected a node"

/-- Entries of a block sequence up to its end. -/
def blockItems : Nat → Build (List Nat)
  | 0 => refuse "too deep"
  | fuel + 1 => do
      match ← look with
      | Token.blockEntry => do
          drop
          let item ←
            match ← look with
            | Token.blockEntry => absentNode
            | Token.blockEnd => absentNode
            | _ => node true false fuel
          return item :: (← blockItems fuel)
      | Token.blockEnd => do
          drop
          return []
      | _ => refuse "expected the end of a sequence"

/-- Entries of a sequence that has no end of its own. -/
def indentlessItems : Nat → Build (List Nat)
  | 0 => refuse "too deep"
  | fuel + 1 => do
      match ← look with
      | Token.blockEntry => do
          drop
          let item ←
            match ← look with
            | Token.blockEntry => absentNode
            | Token.key => absentNode
            | Token.value => absentNode
            | Token.blockEnd => absentNode
            | _ => node true false fuel
          return item :: (← indentlessItems fuel)
      | _ => return []

/-- The key or the value behind its mark in a block mapping. -/
def blockPart : Nat → Build Nat
  | 0 => refuse "too deep"
  | fuel + 1 => do
      match ← look with
      | Token.key => absentNode
      | Token.value => absentNode
      | Token.blockEnd => absentNode
      | _ => node true true fuel

/-- The value behind a key in a block mapping. -/
def blockValue : Nat → Build Nat
  | 0 => refuse "too deep"
  | fuel + 1 => do
      match ← look with
      | Token.value => do
          drop
          blockPart fuel
      | _ => absentNode

def blockEntries : Nat → Build (List (Nat × Nat))
  | 0 => refuse "too deep"
  | fuel + 1 => do
      match ← look with
      | Token.key => do
          drop
          let key ← blockPart fuel
          let value ← blockValue fuel
          return (key, value) :: (← blockEntries fuel)
      | Token.blockEnd => do
          drop
          return []
      | _ => refuse "expected the end of a mapping"

/-- The comma between the entries of a bracketed collection. -/
def comma (first : Bool) : Build Unit := do
  if !first then
    match ← look with
    | Token.flowEntry => drop
    | _ => refuse "expected a comma"

/-- A key or value between brackets, which may be left out. -/
def flowPart : Nat → Build Nat
  | 0 => refuse "too deep"
  | fuel + 1 => do
      match ← look with
      | Token.flowEntry => absentNode
      | Token.flowSequenceEnd => absentNode
      | Token.flowMappingEnd => absentNode
      | Token.value => absentNode
      | _ => node false false fuel

def flowValue : Nat → Build Nat
  | 0 => refuse "too deep"
  | fuel + 1 => do
      match ← look with
      | Token.value => do
          drop
          flowPart fuel
      | _ => absentNode

/-- Entries of a bracketed sequence; a pair is a mapping by itself. -/
def flowItems (first : Bool) : Nat → Build (List Nat)
  | 0 => refuse "too deep"
  | fuel + 1 => do
      if (← look) = Token.flowSequenceEnd then
        drop
        return []
      comma first
      match ← look with
      | Token.key => do
          drop
          let pair : Build Node := do
            let key ← flowPart fuel
            let value ← flowValue fuel
            return Node.mapping Tag.mapping [(key, value)]
          let item ← inside (← addNode (Node.mapping Tag.mapping [])) pair
          return item :: (← flowItems false fuel)
      | Token.flowSequenceEnd => do
          drop
          return []
      | _ => do
          let item ← node false false fuel
          return item :: (← flowItems false fuel)

def flowEntries (first : Bool) : Nat → Build (List (Nat × Nat))
  | 0 => refuse "too deep"
  | fuel + 1 => do
      if (← look) = Token.flowMappingEnd then
        drop
        return []
      comma first
      match ← look with
      | Token.key => do
          drop
          let key ← flowPart fuel
          let value ← flowValue fuel
          return (key, value) :: (← flowEntries false fuel)
      | Token.flowMappingEnd => do
          drop
          return []
      | _ => do
          let key ← node false false fuel
          let value ← absentNode
          return (key, value) :: (← flowEntries false fuel)

end

/-- The directives in front of a document. -/
def directives (versioned : Bool) : Nat → Build Unit
  | 0 => return ()
  | fuel + 1 => do
      match ← look with
      | Token.versionDirective major => do
          if versioned then refuse "the version is given twice"
          if major ≠ 1 then refuse "the version is not supported"
          drop
          directives true fuel
      | Token.tagDirective handle meaning => do
          if (← get).handles.any fun entry => entry.1 == handle then
            refuse "a handle is given twice"
          modify fun builder => { builder with handles := (handle, meaning) :: builder.handles }
          drop
          directives versioned fuel
      | Token.otherDirective => do
          drop
          directives versioned fuel
      | _ => return ()

def skipDocumentEnds : Nat → Build Unit
  | 0 => return ()
  | fuel + 1 => do
      if (← look) = Token.documentEnd then
        drop
        skipDocumentEnds fuel

/-- A document behind its directives and its start. -/
def explicitDocument (fuel : Nat) : Build Nat := do
  modify fun builder => { builder with handles := [] }
  directives false fuel
  modify fun builder => { builder with handles := builder.handles ++ defaultHandles }
  if (← look) ≠ Token.documentStart then refuse "expected the start of a document"
  drop
  match ← look with
  | Token.versionDirective _ => absentNode
  | Token.tagDirective _ _ => absentNode
  | Token.otherDirective => absentNode
  | Token.documentStart => absentNode
  | Token.documentEnd => absentNode
  | Token.streamEnd => absentNode
  | _ => node true false fuel

/-- What follows the only document may be directives, but no document. -/
def refuseAnother (fuel : Nat) : Build Unit := do
  skipDocumentEnds fuel
  if (← look) ≠ Token.streamEnd then
    modify fun builder => { builder with handles := [] }
    directives false fuel
    discard look
    refuse "expected a single document"

/-- The place of the only document of the text. -/
def onlyDocument (fuel : Nat) : Build (Option Nat) := do
  let content ←
    match ← look with
    | Token.streamEnd => pure none
    | Token.versionDirective _ => some <$> explicitDocument fuel
    | Token.tagDirective _ _ => some <$> explicitDocument fuel
    | Token.otherDirective => some <$> explicitDocument fuel
    | Token.documentStart => some <$> explicitDocument fuel
    | _ => some <$> node true false fuel
  refuseAnother fuel
  return content

/-- The document of a text, if it has one. -/
def document (text : List Char) : Except Problem (Option Document) :=
  let (tokens, problem) := tokensOf text
  let failure := problem.getD (Problem.malformed "the text ends too early")
  let fuel := 3 * tokens.length + 8
  match (onlyDocument fuel).run ⟨tokens, failure, defaultHandles, [], #[], 0⟩ with
  | Except.ok (root, builder) => Except.ok (root.map (Document.mk builder.nodes))
  | Except.error found => Except.error found

end UtilityCss.Yaml

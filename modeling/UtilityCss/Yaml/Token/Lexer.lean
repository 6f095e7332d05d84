import UtilityCss.Yaml.Token.Scalar

/-!
# Reading tokens

Each round skips blanks and comments, closes the blocks that the new column
ends, and reads one token.  A scalar, a bracket, an alias or a property may
begin a key; a colon behind it on the same line settles that it does.
-/

namespace UtilityCss.Yaml

/-! ## Places where keys may begin -/

/-- A key ends on its line and within 1024 characters. -/
def KeyPlace.isStale (place : KeyPlace) (source : Source) : Bool :=
  place.line != source.line || 1024 < source.index - place.index

/-- Drops the places that have become too far away. -/
def dropStalePlaces : Reading Unit := do
  let source ← get
  let stale := source.places.filter fun place => place.isStale source
  if stale.any KeyPlace.required then malformed "expected a colon behind a key"
  set { source with places := source.places.filter fun place => !place.isStale source }

/-- Drops the place at the current level of brackets. -/
def dropPlace : Reading Unit := do
  let source ← get
  let here := source.places.filter fun place => place.level == source.level
  if here.any KeyPlace.required then malformed "expected a colon behind a key"
  set { source with places := source.places.filter fun place => place.level != source.level }

/-- Notes that a key may begin here. -/
def notePlace : Reading Unit := do
  let source ← get
  if source.keyAllowed then
    dropPlace
    modify fun source =>
      { source with
        places := source.places ++
          [⟨source.tokens.length, source.level == 0 && source.indent == source.column,
            source.index, source.line, source.column, source.level⟩] }

/-! ## Indentation -/

/-- Closes the blocks that are indented further than the column. -/
def closeBlocks (column : Int) : Nat → Reading Unit
  | 0 => return ()
  | fuel + 1 => do
      let source ← get
      if column < source.indent then
        set { source with indent := source.indents.headD (-1), indents := source.indents.tail }
        push Token.blockEnd
        closeBlocks column fuel

def unwind (column : Int) : Reading Unit := do
  let source ← get
  if source.level = 0 then closeBlocks column (source.indents.length + 1)

/-- Opens a block at a column if it is indented further than the block around
it. -/
def openBlock (column : Int) : Reading Bool := do
  let source ← get
  if source.indent < column then
    set { source with indent := column, indents := source.indent :: source.indents }
    return true
  else return false

/-! ## Tokens -/

def skipToToken : Nat → Reading Unit
  | 0 => return ()
  | fuel + 1 => do
      discard <| takeRun (· == ' ')
      skipComment
      let taken ← takeBreak
      if !taken.isEmpty then
        if (← get).level = 0 then setKeyAllowed true
        skipToToken fuel

/-- The end of the text closes everything. -/
def readEnd : Reading Unit := do
  unwind (-1)
  dropPlace
  modify fun source => { source with keyAllowed := false, places := [] }
  push Token.streamEnd

def readDirective : Reading Unit := do
  unwind (-1)
  dropPlace
  setKeyAllowed false
  push (← directive)

def readDocumentMark (token : Token) : Reading Unit := do
  unwind (-1)
  dropPlace
  setKeyAllowed false
  skip 3
  push token

def readOpening (token : Token) : Reading Unit := do
  notePlace
  modify fun source => { source with level := source.level + 1, keyAllowed := true }
  skip 1
  push token

def readClosing (token : Token) : Reading Unit := do
  dropPlace
  modify fun source => { source with level := source.level - 1, keyAllowed := false }
  skip 1
  push token

def readFlowEntry : Reading Unit := do
  setKeyAllowed true
  dropPlace
  skip 1
  push Token.flowEntry

def readBlockEntry : Reading Unit := do
  let source ← get
  if source.level = 0 then
    if !source.keyAllowed then malformed "no sequence entry may stand here"
    if ← openBlock source.column then push Token.blockSequenceStart
  setKeyAllowed true
  dropPlace
  skip 1
  push Token.blockEntry

def readKey : Reading Unit := do
  let source ← get
  if source.level = 0 then
    if !source.keyAllowed then malformed "no key may stand here"
    if ← openBlock source.column then push Token.blockMappingStart
  setKeyAllowed (source.level == 0)
  dropPlace
  skip 1
  push Token.key

/-- A colon: the value of a key that began earlier, or of an empty key. -/
def readValue : Reading Unit := do
  let source ← get
  match source.places.find? fun place => place.level == source.level with
  | some place => do
      set { source with
        places := source.places.filter fun other => other.level != source.level }
      insertToken place.token Token.key
      if source.level = 0 then
        if ← openBlock place.column then insertToken place.token Token.blockMappingStart
      setKeyAllowed false
  | none => do
      if source.level = 0 then
        if !source.keyAllowed then malformed "no value may stand here"
        if ← openBlock source.column then push Token.blockMappingStart
      setKeyAllowed (source.level == 0)
      dropPlace
  skip 1
  push Token.value

/-- A token that may begin a key. -/
def readInline (token : Reading Token) : Reading Unit := do
  notePlace
  setKeyAllowed false
  push (← token)

def readBlockScalar (folded : Bool) : Reading Unit := do
  setKeyAllowed true
  dropPlace
  push (← blockScalar folded)

/-- Whether a plain scalar may begin with the first of these characters. -/
def beginsPlain (inFlow : Bool) (c : Char) (following : Option Char) : Bool :=
  !(isGapOrBreak c || "-?:,[]\x7b\x7d#&*!|>'\"%@`".toList.contains c) ||
    (!endOr isGapOrBreak following && (c == '-' || (!inFlow && (c == '?' || c == ':'))))

/-- Reads the token that begins with a character. -/
def readFrom (c : Char) : Reading Unit := do
  let source ← get
  let inFlow := source.level != 0
  let following := source.rest[1]?
  let marks := source.rest.take 3
  let isMark := source.column == 0 && endOr isGapOrBreak source.rest[3]?
  let isIndicator := endOr isGapOrBreak following
  if c = '%' ∧ source.column = 0 then readDirective
  else if isMark ∧ marks = ['-', '-', '-'] then readDocumentMark Token.documentStart
  else if isMark ∧ marks = ['.', '.', '.'] then readDocumentMark Token.documentEnd
  else if c = '[' then readOpening Token.flowSequenceStart
  else if c = '\x7b' then readOpening Token.flowMappingStart
  else if c = ']' then readClosing Token.flowSequenceEnd
  else if c = '\x7d' then readClosing Token.flowMappingEnd
  else if c = ',' then readFlowEntry
  else if c = '-' ∧ isIndicator then readBlockEntry
  else if c = '?' ∧ (inFlow ∨ isIndicator) then readKey
  else if c = ':' ∧ (inFlow ∨ isIndicator) then readValue
  else if c = '*' then readInline (return Token.alias (← anchorName))
  else if c = '&' then readInline (return Token.anchor (← anchorName))
  else if c = '!' then readInline tagToken
  else if c = '|' ∧ !inFlow then readBlockScalar false
  else if c = '>' ∧ !inFlow then readBlockScalar true
  else if c = '\'' ∨ c = '"' then readInline (quotedScalar c)
  else if beginsPlain inFlow c following then readInline plainScalar
  else malformed "a character begins no token"

/-- Reads the next token; false at the end of the text. -/
def readNext : Reading Bool := do
  skipToToken ((← get).rest.length + 1)
  dropStalePlaces
  unwind (← get).column
  match ← peek with
  | none => do
      readEnd
      return false
  | some c => do
      readFrom c
      return true

/-- The tokens that are settled: those in front of every place where a key may
turn out to have begun. -/
def Source.settled (source : Source) : List Token :=
  let openPlaces := source.places.filter fun place => !place.isStale source
  let count :=
    (openPlaces.map KeyPlace.token).foldl min source.tokens.length
  source.tokens.reverse.take count

/-- Reads tokens up to the end of the text.  A problem is met as soon as a token
is looked for that is not settled, so only the settled ones come before it. -/
def readTokens : Nat → Source → List Token × Option Problem
  | 0, source => (source.tokens.reverse, none)
  | fuel + 1, source =>
      match readNext source with
      | EStateM.Result.error problem _ => (source.settled, some problem)
      | EStateM.Result.ok true next => readTokens fuel next
      | EStateM.Result.ok false next => (next.tokens.reverse, none)

/-- The mark of a byte order in front of a text is no part of it. -/
def withoutOrderMark : List Char → List Char
  | '\uFEFF' :: rest => rest
  | text => text

/-- The tokens of a text, and the problem that ends them if there is one. -/
def tokensOf (text : List Char) : List Token × Option Problem :=
  if !text.all isAllowed then
    ([], some (Problem.malformed "the text holds a character that is not allowed"))
  else readTokens (text.length + 2) (Source.start (withoutOrderMark text))

end UtilityCss.Yaml

import UtilityCss.Yaml.Token.Source

/-!
# Scalars, anchors, tags and directives

The tokens that hold text.  Lines of a scalar are joined by spaces unless its
style keeps them apart.
-/

namespace UtilityCss.Yaml

/-! ## Directives, anchors and tags -/

def directiveNumber : Reading Nat := do
  let digits ← takeRun Char.isDigit
  if digits.isEmpty then malformed "a version needs digits"
  return digits.foldl (fun value c => value * 10 + (c.toNat - '0'.toNat)) 0

/-- The end of a line that may hold a comment and nothing else. -/
def endLine : Reading Unit := do
  discard <| takeRun (· == ' ')
  skipComment
  if !endOr isBreak (← peek) then malformed "expected a comment or a line break"
  discard takeBreak

def isUriChar (c : Char) : Bool :=
  c.isAlphanum || "-;/?:@&=+$,_.!~*'()[]".toList.contains c

/-- Characters spelled by the numbers of their octets. -/
def uriEscapes : Nat → Reading (List UInt8)
  | 0 => return []
  | fuel + 1 => do
      if (← peek) ≠ some '%' then return []
      skip 1
      let digits := (← get).rest.take 2
      if digits.length < 2 ∨ !digits.all Text.isHexChar then malformed "an escape needs two digits"
      skip 2
      return (Text.hexNumber digits).toUInt8 :: (← uriEscapes fuel)

def uriParts : Nat → Reading (List Char)
  | 0 => return []
  | fuel + 1 => do
      let plain ← takeRun isUriChar
      if (← peek) = some '%' then
        let octets ← uriEscapes (← get).rest.length
        match String.fromUTF8? octets.toByteArray with
        | some text => return plain ++ text.toList ++ (← uriParts fuel)
        | none => malformed "an escape is no character"
      else return plain

/-- The part of a tag that names its meaning. -/
def tagUri : Reading String := do
  let chars ← uriParts ((← get).rest.length + 1)
  if chars.isEmpty then malformed "expected the name of a tag"
  return String.ofList chars

/-- The handle of a tag: one mark, or a name between two marks. -/
def tagHandle : Reading String := do
  if (← peek) ≠ some '!' then malformed "expected the handle of a tag"
  if (← peekAt 1) = some ' ' then
    skip 1
    return "!"
  let name := ((← get).rest.drop 1).takeWhile isNameChar
  if (← peekAt (1 + name.length)) ≠ some '!' then malformed "expected the end of a handle"
  skip (name.length + 2)
  return String.ofList ('!' :: (name ++ ['!']))

def directive : Reading Token := do
  skip 1
  let name ← takeRun isNameChar
  if name.isEmpty then malformed "a directive needs a name"
  if !endOr isSpaceOrBreak (← peek) then malformed "a directive has a bad name"
  match String.ofList name with
  | "YAML" => do
      discard <| takeRun (· == ' ')
      let major ← directiveNumber
      if (← peek) ≠ some '.' then malformed "a version needs a point"
      skip 1
      discard directiveNumber
      if !endOr isSpaceOrBreak (← peek) then malformed "a version has a bad end"
      endLine
      return Token.versionDirective major
  | "TAG" => do
      discard <| takeRun (· == ' ')
      let handle ← tagHandle
      if (← peek) ≠ some ' ' then malformed "expected a space behind a handle"
      discard <| takeRun (· == ' ')
      let meaning ← tagUri
      if !endOr isSpaceOrBreak (← peek) then malformed "a tag has a bad end"
      endLine
      return Token.tagDirective handle meaning
  | _ => do
      discard <| takeRun fun c => !isBreak c
      endLine
      return Token.otherDirective

/-- The name of an anchor or an alias. -/
def anchorName : Reading String := do
  skip 1
  let name ← takeRun isNameChar
  if name.isEmpty then malformed "an anchor needs a name"
  if !endOr (fun c => isGapOrBreak c || "?:,]\x7d%@`".toList.contains c) (← peek) then
    malformed "an anchor has a bad end"
  return String.ofList name

/-- Whether a further mark stands in the tag in front of its end. -/
def hasHandle (rest : List Char) : Bool :=
  (rest.takeWhile fun c => !isSpaceOrBreak c).contains '!'

def tagToken : Reading Token := do
  let source ← get
  let text ←
    match source.rest[1]? with
    | some '<' => do
        skip 2
        let suffix ← tagUri
        if (← peek) ≠ some '>' then malformed "expected the end of a tag"
        skip 1
        pure ⟨none, suffix⟩
    | other => do
        if endOr isGapOrBreak other then
          skip 1
          pure ⟨none, "!"⟩
        else if hasHandle (source.rest.drop 1) then
          let handle ← tagHandle
          pure ⟨some handle, ← tagUri⟩
        else
          skip 1
          pure ⟨some "!", ← tagUri⟩
  if !endOr isSpaceOrBreak (← peek) then malformed "a tag has a bad end"
  return Token.tag text

/-! ## Quoted scalars -/

/-- What a letter behind a backslash stands for. -/
def escapeMeaning? : Char → Option Char
  | '0' => some '\x00'
  | 'a' => some '\x07'
  | 'b' => some '\x08'
  | 't' => some '\t'
  | '\t' => some '\t'
  | 'n' => some '\n'
  | 'v' => some '\x0b'
  | 'f' => some '\x0c'
  | 'r' => some '\r'
  | 'e' => some '\x1b'
  | ' ' => some ' '
  | '"' => some '"'
  | '\\' => some '\\'
  | '/' => some '/'
  | 'N' => some '\x85'
  | '_' => some '\xa0'
  | 'L' => some '\u2028'
  | 'P' => some '\u2029'
  | _ => none

/-- How many digits follow a letter behind a backslash. -/
def escapeLength? : Char → Option Nat
  | 'x' => some 2
  | 'u' => some 4
  | 'U' => some 8
  | _ => none

/-- A number as a code point. -/
def codePoint (code : Nat) : Reading Nat :=
  if 0x7FFFFFFF < code then
    throw (Problem.unusable "OverflowError" "Python int too large to convert to C int")
  else if 0x10FFFF < code then
    throw (Problem.unusable "ValueError" "chr() arg not in range(0x110000)")
  else return code

def codesOf (chars : List Char) : List Nat :=
  chars.map Char.toNat

/-- Line breaks between the lines of a quoted scalar; the blanks that begin a
line do not count. -/
def quotedBreaks : Nat → Reading (List Char)
  | 0 => return []
  | fuel + 1 => do
      if ← atSeparator then malformed "a document ends inside quotes"
      discard <| takeRun fun c => c == ' ' || c == '\t'
      let taken ← takeBreak
      if taken.isEmpty then return []
      else return taken ++ (← quotedBreaks fuel)

/-- What a backslash and the characters behind it stand for. -/
def escapeSequence : Reading (List Nat) := do
  skip 1
  match ← peek with
  | none => malformed "an escape has no letter"
  | some c =>
      match escapeMeaning? c, escapeLength? c with
      | some meaning, _ => do
          skip 1
          return [meaning.toNat]
      | none, some length => do
          skip 1
          let digits := (← get).rest.take length
          if digits.length < length ∨ !digits.all Text.isHexChar then
            malformed "an escape lacks digits"
          let code ← codePoint (Text.hexNumber digits)
          skip length
          return [code]
      | none, none =>
          if isBreak c then do
            discard takeBreak
            return codesOf (← quotedBreaks ((← get).rest.length + 1))
          else malformed "an escape has an unknown letter"

def isQuotedPlain (c : Char) : Bool :=
  !(c == '\'' || c == '"' || c == '\\' || isGapOrBreak c)

/-- Code points of a quoted scalar up to a gap or its end. -/
def quotedText (double : Bool) : Nat → Reading (List Nat)
  | 0 => return []
  | fuel + 1 => do
      let plain ← takeRun isQuotedPlain
      let andMore (others : List Nat) : Reading (List Nat) := do
        return codesOf plain ++ others ++ (← quotedText double fuel)
      match ← peek, ← peekAt 1 with
      | some '\'', following =>
          if double then do
            skip 1
            andMore (codesOf ['\''])
          else if following = some '\'' then do
            skip 2
            andMore (codesOf ['\''])
          else return codesOf plain
      | some '"', _ =>
          if double then return codesOf plain
          else do
            skip 1
            andMore (codesOf ['"'])
      | some '\\', _ =>
          if double then andMore (← escapeSequence)
          else do
            skip 1
            andMore (codesOf ['\\'])
      | _, _ => return codesOf plain

/-- A gap inside a quoted scalar: blanks as they are, or a break between lines,
where a single one becomes a space. -/
def quotedGap : Reading (List Char) := do
  let blanks ← takeRun fun c => c == ' ' || c == '\t'
  match ← peek with
  | none => malformed "the text ends inside quotes"
  | some c =>
      if isBreak c then do
        let first ← takeBreak
        let others ← quotedBreaks ((← get).rest.length + 1)
        return (if first ≠ ['\n'] then first else if others.isEmpty then [' '] else []) ++ others
      else return blanks

def quotedRest (quote : Char) : Nat → Reading (List Nat)
  | 0 => return []
  | fuel + 1 => do
      if (← peek) = some quote then return []
      let gap ← quotedGap
      let text ← quotedText (quote == '"') ((← get).rest.length + 1)
      return codesOf gap ++ text ++ (← quotedRest quote fuel)

def quotedScalar (quote : Char) : Reading Token := do
  skip 1
  let first ← quotedText (quote == '"') ((← get).rest.length + 1)
  let others ← quotedRest quote ((← get).rest.length + 2)
  skip 1
  return Token.scalar false (Content.ofCodes (first ++ others))

/-! ## Plain scalars -/

/-- Whether a plain scalar ends in front of the text. -/
def endsPlain (inFlow : Bool) : List Char → Bool
  | [] => true
  | c :: rest =>
      isGapOrBreak c ||
        (c == ':' &&
          endOr (fun next => isGapOrBreak next || (inFlow && ",[]\x7b\x7d".toList.contains next))
            rest.head?) ||
        (inFlow && ",?[]\x7b\x7d".toList.contains c)

/-- The characters in front of the end of a plain scalar. -/
def plainRun (inFlow : Bool) : List Char → List Char
  | [] => []
  | c :: rest => if endsPlain inFlow (c :: rest) then [] else c :: plainRun inFlow rest

/-- Spaces and line breaks between the lines of a plain scalar, or nothing if a
document ends there. -/
def plainBreaks : Nat → Reading (Option (List Char))
  | 0 => return some []
  | fuel + 1 => do
      match ← peek with
      | some ' ' => do
          skip 1
          plainBreaks fuel
      | some c =>
          if isBreak c then do
            let taken ← takeBreak
            if ← atSeparator then return none
            return (← plainBreaks fuel).map (taken ++ ·)
          else return some []
      | none => return some []

/-- A gap inside a plain scalar; empty if the scalar ends there. -/
def plainGap : Reading (List Char) := do
  let blanks ← takeRun (· == ' ')
  let first ← takeBreak
  if first.isEmpty then return blanks
  setKeyAllowed true
  if ← atSeparator then return []
  match ← plainBreaks ((← get).rest.length + 1) with
  | none => return []
  | some others =>
      return (if first ≠ ['\n'] then first else if others.isEmpty then [' '] else []) ++ others

/-- The parts of a plain scalar, each behind the gap in front of it. -/
def plainParts (inFlow : Bool) (indent : Int) (gap : List Char) : Nat → Reading (List Char)
  | 0 => return []
  | fuel + 1 => do
      if (← peek) = some '#' then return []
      let run := plainRun inFlow (← get).rest
      if run.isEmpty then return []
      setKeyAllowed false
      skip run.length
      let following ← plainGap
      let source ← get
      if following.isEmpty ∨ source.rest.head? = some '#' ∨
          (!inFlow ∧ (source.column : Int) < indent) then
        return gap ++ run
      else
        return gap ++ run ++ (← plainParts inFlow indent following fuel)

def plainScalar : Reading Token := do
  let source ← get
  let chars ← plainParts (source.level != 0) (source.indent + 1) [] (source.rest.length + 1)
  return Token.scalar true (Content.text (String.ofList chars))

/-! ## Block scalars -/

/-- Whether the breaks at the end are kept (`true`), stripped (`false`), or cut
down to one, and the indentation if it is given. -/
def blockHeader : Reading (Option Bool × Option Nat) := do
  let chomping : Reading (Option Bool) := do
    match ← peek with
    | some '+' => do skip 1; return some true
    | some '-' => do skip 1; return some false
    | _ => return none
  let increment : Reading (Option Nat) := do
    match ← peek with
    | some c =>
        if c = '0' then malformed "an indentation cannot be zero"
        else if c.isDigit then do
          skip 1
          return some (c.toNat - '0'.toNat)
        else return none
    | none => return none
  let before ← chomping
  let given ← increment
  let after ← if before.isNone ∧ given.isSome then chomping else pure none
  if !endOr isSpaceOrBreak (← peek) then malformed "a block scalar has a bad header"
  return (before <|> after, given)

/-- Spaces up to the indentation. -/
def skipIndent (indent : Nat) : Nat → Reading Unit
  | 0 => return ()
  | fuel + 1 => do
      let source ← get
      if source.column < indent ∧ source.rest.head? = some ' ' then do
        skip 1
        skipIndent indent fuel

/-- Line breaks between the lines of a block scalar. -/
def blockBreaks (indent : Nat) : Nat → Reading (List Char)
  | 0 => return []
  | fuel + 1 => do
      skipIndent indent indent
      let taken ← takeBreak
      if taken.isEmpty then return []
      else return taken ++ (← blockBreaks indent fuel)

/-- Line breaks in front of the first line, with the widest indentation seen. -/
def blockLeading (widest : Nat) : Nat → Reading (List Char × Nat)
  | 0 => return ([], widest)
  | fuel + 1 => do
      match ← peek with
      | some ' ' => do
          skip 1
          blockLeading (max widest (← get).column) fuel
      | _ => do
          let taken ← takeBreak
          if taken.isEmpty then return ([], widest)
          let (others, indent) ← blockLeading widest fuel
          return (taken ++ others, indent)

/-- The lines of a block scalar with the last break and the breaks behind it. -/
def blockLines (folded : Bool) (indent : Nat) (breaks : List Char) :
    Nat → Reading (List Char × List Char × List Char)
  | 0 => return ([], [], breaks)
  | fuel + 1 => do
      let source ← get
      if source.column ≠ indent ∨ source.rest.isEmpty then return ([], [], breaks)
      let startsText := !endOr (fun c => c == ' ' || c == '\t') source.rest.head?
      let line ← takeRun fun c => !isBreak c
      let lineBreak ← takeBreak
      let following ← blockBreaks indent ((← get).rest.length + 1)
      let after ← get
      if after.column = indent ∧ !after.rest.isEmpty then
        let isFolded := folded && lineBreak == ['\n'] && startsText &&
          !endOr (fun c => c == ' ' || c == '\t') after.rest.head?
        let joint := if isFolded then (if following.isEmpty then [' '] else []) else lineBreak
        let (others, lastBreak, trailing) ← blockLines folded indent following fuel
        return (breaks ++ line ++ joint ++ others, lastBreak, trailing)
      else return (breaks ++ line, lineBreak, following)

def blockScalar (folded : Bool) : Reading Token := do
  skip 1
  let (chomping, given) ← blockHeader
  endLine
  let least := (max ((← get).indent + 1) 1).toNat
  let fuel := (← get).rest.length + 1
  let (breaks, indent) ←
    match given with
    | none => do
        let (breaks, widest) ← blockLeading 0 fuel
        pure (breaks, max least widest)
    | some increment => do
        let indent := least + increment - 1
        pure (← blockBreaks indent fuel, indent)
  let (lines, lastBreak, trailing) ← blockLines folded indent breaks fuel
  let ending :=
    (if chomping = some false then [] else lastBreak) ++
      (if chomping = some true then trailing else [])
  return Token.scalar false (Content.text (String.ofList (lines ++ ending)))

end UtilityCss.Yaml

import UtilityCss.Yaml.Atom

/-!
# Values of contents

A content is read as its tag wants it.  Code points that stand for no character
make a text of their own kind, but no number and no truth value.
-/

namespace UtilityCss.Yaml

/-- Code points in lower case; those that stand for no character end words. -/
def lowerCodes : (before : List Char) → List Nat → List Nat
  | before, [] => (Text.lowerCase before.reverse).map Char.toNat
  | before, code :: rest =>
      if Text.isSurrogate code then
        (Text.lowerCase before.reverse).map Char.toNat ++ code :: lowerCodes [] rest
      else lowerCodes (Char.ofNat code :: before) rest

/-- The parts between colons. -/
def splitCodes : List Nat → List (List Nat)
  | [] => [[]]
  | code :: rest =>
      if code = ':'.toNat then [] :: splitCodes rest
      else
        match splitCodes rest with
        | [] => [[code]]
        | part :: others => (code :: part) :: others

def withoutSign : List Nat → List Nat
  | code :: rest => if code = '-'.toNat ∨ code = '+'.toNat then rest else code :: rest
  | [] => []

def withoutUnderscores (points : List Nat) : List Nat :=
  points.filter (· != '_'.toNat)

/-- What is said about the first part that cannot be read: one that holds a code
point which is no character, or one whose text the reader refuses. -/
def refuseParts (read : List Char → Except Problem Unit) (message : List Nat → String)
    (parts : List (List Nat)) : Except Problem Atom := do
  for part in parts do
    if part.any Text.isSurrogate then unusable "ValueError" (message part)
    else read (part.map Char.ofNat)
  indexProblem

/-- What is said about code points in place of a whole number. -/
def refuseWholeNumber (points : List Nat) : Except Problem Atom :=
  let kept := withoutSign (withoutUnderscores points)
  let say (base : Nat) (part : List Nat) : String :=
    noWholeNumber base (Text.quotedCodes part)
  let read (base : Nat) (chars : List Char) : Except Problem Unit :=
    (wholeNumber base chars).map fun _ => ()
  match kept with
  | 0x30 :: 0x62 :: rest => refuseParts (read 2) (say 2) [rest]
  | 0x30 :: 0x78 :: rest => refuseParts (read 16) (say 16) [rest]
  | 0x30 :: _ => refuseParts (read 8) (say 8) [kept]
  | _ => refuseParts (read 10) (say 10) (splitCodes kept)

/-- What is said about code points in place of a number with a fraction. -/
def refuseFraction (points : List Nat) : Except Problem Atom :=
  let kept := withoutSign (lowerCodes [] (withoutUnderscores points))
  refuseParts (fun chars => (fractionNumber chars).map fun _ => ())
    (fun part => noFraction (Text.quotedCodes part)) (splitCodes kept)

/-- The value of code points some of which stand for no character. -/
def codesAtom (tag : Tag) (points : List Nat) : Except Problem Atom :=
  match tag with
  | Tag.null => Except.ok Atom.null
  | Tag.text => Except.ok (Atom.codes points)
  | Tag.bool => unusable "KeyError" (Text.quotedCodes (lowerCodes [] points))
  | Tag.int => refuseWholeNumber points
  | Tag.float => refuseFraction points
  | Tag.timestamp => noMoment
  | _ => Except.error (Problem.malformed "a scalar has a tag without meaning")

/-- The value of a scalar.  The mark tells its value from others if that is no
number. -/
def atomOf (tag : Tag) (mark : Nat) : Content → Except Problem Atom
  | Content.text chars => textAtom tag mark chars.toList
  | Content.codes points => codesAtom tag points

end UtilityCss.Yaml

/-!
# Texts that resemble each other

Two texts are compared by their blocks in common: the longest block first, then
the blocks in what is left before and after it.  Texts are close when the
blocks make up at least six tenths of them.
-/

namespace UtilityCss.Text

/-- The number of characters at the front that two texts share. -/
def commonFront : List Char → List Char → Nat
  | left :: lefts, right :: rights =>
      if left = right then commonFront lefts rights + 1 else 0
  | _, _ => 0

/-- A block at a place of each text. -/
structure SharedBlock where
  left : Nat
  right : Nat
  size : Nat
deriving DecidableEq, Repr

/-- The blocks that begin at any two places, by place in the first text and
then in the second. -/
def sharedBlocks (left right : List Char) : List SharedBlock :=
  (List.range left.length).flatMap fun i =>
    (List.range right.length).map fun j =>
      ⟨i, j, commonFront (left.drop i) (right.drop j)⟩

/-- The longest block, the earliest of several. -/
def longestBlock (left right : List Char) : SharedBlock :=
  (sharedBlocks left right).foldl
    (fun best block => if best.size < block.size then block else best)
    ⟨0, 0, 0⟩

/-- The number of characters in blocks in common; the fuel bounds the number of
blocks in a row. -/
def sharedAux : Nat → List Char → List Char → Nat
  | 0, _, _ => 0
  | fuel + 1, left, right =>
      let block := longestBlock left right
      if block.size = 0 then 0
      else
        block.size + sharedAux fuel (left.take block.left) (right.take block.right) +
          sharedAux fuel (left.drop (block.left + block.size))
            (right.drop (block.right + block.size))

def shared (left right : List Char) : Nat :=
  sharedAux left.length left right

/-- A candidate with the number of its characters that it shares. -/
structure Candidate where
  text : String
  shared : Nat
  total : Nat
deriving DecidableEq, Repr

/-- Whether the first candidate comes before the second: it shares more of
itself, or is the greater text when they share the same. -/
def Candidate.isBefore (first second : Candidate) : Bool :=
  let firstShare := first.shared * second.total
  let secondShare := second.shared * first.total
  if firstShare = secondShare then decide (second.text ≤ first.text)
  else decide (secondShare < firstShare)

/-- The three texts at most that are closest to a word. -/
def closeTo (word : String) (texts : List String) : List String :=
  let candidates := texts.map fun text =>
    Candidate.mk text (shared text.toList word.toList) (text.length + word.length)
  let close := candidates.filter fun candidate =>
    6 * candidate.total ≤ 20 * candidate.shared
  ((close.mergeSort Candidate.isBefore).take 3).map Candidate.text

end UtilityCss.Text

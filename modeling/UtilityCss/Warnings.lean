import UtilityCss.Block
import UtilityCss.ClassText
import UtilityCss.Shape

/-!
# Advice on a converted text

Warnings never stop a conversion.  They tell of tokens without the shape of a
class, of a text that produced no styles, and of very long tokens.
-/

namespace UtilityCss.Warnings

/-- The number of suspicious tokens that are still listed by name. -/
def listedTokens : Nat := 3

/-- The length up to which a token is not unusually long. -/
def usualLength : Nat := 30

def unrecognized (tokens : List String) : List String :=
  tokens.filter fun token => !Shape.isRecognized token

/-- Tells of tokens that do not look like classes. -/
def onShapes (tokens : List String) : List String :=
  match unrecognized tokens with
  | [] => []
  | suspicious =>
      if suspicious.length ≤ listedTokens then
        ["Potentially invalid classes: " ++ ", ".intercalate suspicious]
      else
        [toString suspicious.length ++ " potentially invalid classes detected"]

/-- Tells that no styles came out of a text that has tokens. -/
def onStyles (tokens : List String) (css : String) : List String :=
  if css = Block.sentinel ∧ tokens ≠ [] then
    ["No CSS styles were generated. Check if the classes are valid Tailwind utilities."]
  else []

def onLength (tokens : List String) : List String :=
  if tokens.any fun token => usualLength < token.length then
    ["Some class names are unusually long. Please verify they are correct."]
  else []

/-- All advice on a sanitized text and the block it gave. -/
def generate (classes css : String) : List String :=
  let tokens := ClassText.tokens classes
  onShapes tokens ++ onStyles tokens css ++ onLength tokens

end UtilityCss.Warnings

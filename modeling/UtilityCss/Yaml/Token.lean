import UtilityCss.Text.Quoted
import UtilityCss.Yaml.Reader

/-!
# Tokens of documents

A document in the configuration language is read as a list of tokens.  Block
structure, which the text shows by indentation, is explicit among the tokens.
-/

namespace UtilityCss.Yaml

/-- The content of a scalar.  Escapes can spell code points that stand for no
character, and a content with one of them is no text. -/
inductive Content where
  | text (chars : String)
  | codes (points : List Nat)
deriving DecidableEq, Repr

def Content.ofCodes (points : List Nat) : Content :=
  if points.any Text.isSurrogate then codes points
  else text (String.ofList (points.map Char.ofNat))

/-- A tag as it is written: a handle that a directive may define, and the rest
of the name. -/
structure TagText where
  handle : Option String
  suffix : String
deriving DecidableEq, Repr

inductive Token where
  | versionDirective (major : Nat)
  | tagDirective (handle meaning : String)
  | otherDirective
  | documentStart
  | documentEnd
  | streamEnd
  | blockSequenceStart
  | blockMappingStart
  | blockEnd
  | flowSequenceStart
  | flowSequenceEnd
  | flowMappingStart
  | flowMappingEnd
  | flowEntry
  | blockEntry
  | key
  | value
  | alias (name : String)
  | anchor (name : String)
  | tag (text : TagText)
  | scalar (plain : Bool) (content : Content)
deriving DecidableEq, Repr

end UtilityCss.Yaml

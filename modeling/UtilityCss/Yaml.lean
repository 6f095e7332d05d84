import UtilityCss.Text.Line
import UtilityCss.Yaml.Draft
import UtilityCss.Yaml.Node.Document

/-!
# Loading configuration texts

The value of a text is the value of its only document.
-/

namespace UtilityCss.Yaml

/-- The value of a document. -/
def Document.value (document : Document) : Except Problem Value :=
  (·.1) <$> (rootValue document.root).run (Draft.ofDocument document)

/-- The value of a text, null if it has no document. -/
def load (text : String) : Except Problem Value := do
  match ← document (Text.unifyBreaks text.toList) with
  | none => return Value.null
  | some document => document.value

end UtilityCss.Yaml

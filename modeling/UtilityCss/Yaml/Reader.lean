import UtilityCss.Value

/-!
# Readers of the configuration language

The program is given a reader for the texts of its files.  It relies on two
things: a text has a value, or is not in the language, or holds a scalar without
a value; and a value that is a map has each key once.  Which texts these are is
left to the reader.
-/

namespace UtilityCss.Yaml

/-- Why a text has no value. -/
inductive Problem where
  /-- The text is not in the language. -/
  | malformed (reason : String)
  /-- A scalar has the form of a value but no value; the error that says so has
  a name and a message. -/
  | unusable (name message : String)
deriving DecidableEq, Repr

structure Reader where
  load : String → Except Problem Value
  distinct : ∀ {text : String} {value : Value},
    load text = Except.ok value → value.Distinct

end UtilityCss.Yaml

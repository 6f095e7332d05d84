/-!
# Kinds of failure and rejected input

Every failed conversion has a kind.  Input that never reaches a style resolver
is rejected for one of three causes, each with its own kind and message.
-/

namespace UtilityCss

/-- What a failed conversion is reported as. -/
inductive ErrorKind where
  | inputTooLong
  | unsafeContent
  | excessSpecialCharacters
  | contextSecurity
  | contextConstruction
  | styleComputation
  | unknown
deriving DecidableEq, Repr

namespace ErrorKind

/-- All kinds in the order in which they are listed. -/
def all : List ErrorKind :=
  [inputTooLong, unsafeContent, excessSpecialCharacters, contextSecurity,
    contextConstruction, styleComputation, unknown]

def label : ErrorKind → String
  | inputTooLong => "input_too_long"
  | unsafeContent => "unsafe_content"
  | excessSpecialCharacters => "excess_special_characters"
  | contextSecurity => "context_security"
  | contextConstruction => "context_construction"
  | styleComputation => "style_computation"
  | unknown => "unknown"

/-- The fixed message of a kind that style resolution can fail with; rejected
input brings its own message. -/
def message? : ErrorKind → Option String
  | contextSecurity =>
      some ("Security error: Unable to access computed styles. " ++
        "This might be due to browser security restrictions.")
  | contextConstruction =>
      some "DOM error: Unable to create virtual element for style computation."
  | styleComputation =>
      some "Style computation error: Unable to extract CSS styles from the element."
  | unknown => some "An unexpected error occurred during CSS conversion."
  | _ => none

end ErrorKind

/-- Why the guard turns an input away. -/
inductive Rejection where
  /-- More characters than the limit. -/
  | tooLong (limit : Int)
  /-- A dangerous pattern occurs; the text is the pattern as it is written. -/
  | dangerous (pattern : String)
  /-- More special characters than the threshold. -/
  | crowded (count threshold : Int)
deriving DecidableEq, Repr

namespace Rejection

def kind : Rejection → ErrorKind
  | tooLong _ => ErrorKind.inputTooLong
  | dangerous _ => ErrorKind.unsafeContent
  | crowded _ _ => ErrorKind.excessSpecialCharacters

def message : Rejection → String
  | tooLong limit => "Input too long. Maximum " ++ toString limit ++ " characters allowed."
  | dangerous _ =>
      "Input contains potentially unsafe content. Please use only Tailwind CSS classes."
  | crowded _ _ =>
      "Input contains too many special characters. Please use valid Tailwind CSS classes."

end Rejection

end UtilityCss

import UtilityCss.Pattern

/-!
# The shapes of utility classes

A token is recognized when it is a keyword or has one of five loose shapes.
The check only feeds advice: a token that fails it is still resolved.
-/

namespace UtilityCss.Shape

open Text

/-- An optional hyphen, a letter, and then any letters and hyphens. -/
def name : Pattern :=
  Pattern.seq (Pattern.optional (Pattern.one (· == '-')))
    (Pattern.seq (Pattern.one isLetter)
      (Pattern.run fun c => isLetter c || c == '-'))

def hyphen : Pattern :=
  Pattern.one (· == '-')

def digits : Pattern :=
  Pattern.atLeastOne isDecimalDigit

/-- Digits, and a point with further digits if there is one. -/
def number : Pattern :=
  Pattern.seq digits
    (Pattern.optional (Pattern.seq (Pattern.one (· == '.')) digits))

/-- A slash with digits, as in a width of one half. -/
def fraction : Pattern :=
  Pattern.optional (Pattern.seq (Pattern.one (· == '/')) digits)

def size : Pattern :=
  Pattern.alt number
    (Pattern.alt (Pattern.literals ["px", "xs", "sm", "md", "lg", "xl"])
      (Pattern.seq (Pattern.one fun c => '2' ≤ c && c ≤ '9') (Pattern.literal "xl")))

/-- A name with a size, such as `p-4` or `w-1/2`. -/
def scale : Pattern :=
  Pattern.seq name
    (Pattern.seq hyphen (Pattern.seq size (Pattern.seq fraction Pattern.ending)))

def variantNames : List String :=
  ["hover", "focus", "active", "disabled", "first", "last", "odd", "even",
    "group-hover", "group-focus", "sm", "md", "lg", "xl", "2xl"]

/-- A variant name and a colon, followed by anything. -/
def variant : Pattern :=
  Pattern.seq (Pattern.literals variantNames) (Pattern.literal ":")

/-- A name with a value in square brackets, such as `bg-[#fff]`. -/
def arbitrary : Pattern :=
  Pattern.seq name
    (Pattern.seq (Pattern.optional hyphen)
      (Pattern.seq (Pattern.one (· == '['))
        (Pattern.seq (Pattern.atLeastOne (· != '\n'))
          (Pattern.seq (Pattern.one (· == ']')) Pattern.ending))))

def isHexDigit (c : Char) : Bool :=
  let folded := foldLetter c
  ('0' ≤ folded && folded ≤ '9') || ('a' ≤ folded && folded ≤ 'f')

def units : List String :=
  ["px", "rem", "em", "%", "vh", "vw", "vmin", "vmax", "ch", "ex", "deg", "ms", "s", "fr"]

/-- What a value in square brackets leaves when the brackets are gone: a name
with a colour or a measure. -/
def remnant : Pattern :=
  Pattern.seq name
    (Pattern.seq hyphen
      (Pattern.seq
        (Pattern.alt
          (Pattern.seq (Pattern.one (· == '#'))
            (Pattern.seq (Pattern.times isHexDigit 3) (Pattern.upTo isHexDigit 5)))
          (Pattern.seq number (Pattern.literals units)))
        Pattern.ending))

def suffixKeywords : List String :=
  ["white", "black", "transparent", "current", "inherit", "none", "auto", "full",
    "screen", "min", "max", "fit", "base", "start", "end", "center", "between",
    "around", "evenly", "stretch", "baseline", "col", "row", "wrap", "nowrap",
    "reverse", "solid", "dashed", "dotted", "double", "left", "right", "top",
    "bottom", "thin", "extralight", "light", "normal", "medium", "semibold", "bold",
    "extrabold", "tight", "snug", "relaxed", "loose", "wide", "wider", "widest",
    "sans", "serif", "mono", "pointer", "visible", "scroll", "clip", "contain",
    "cover", "fixed", "repeat", "ellipsis"]

/-- A name with a keyword, such as `items-center`. -/
def keyworded : Pattern :=
  Pattern.seq name
    (Pattern.seq hyphen
      (Pattern.seq (Pattern.literals suffixKeywords)
        (Pattern.seq fraction Pattern.ending)))

/-- Utilities that are a keyword by themselves. -/
def keywordUtilities : List String :=
  ["flex", "inline-flex", "block", "inline-block", "inline", "grid", "inline-grid",
    "hidden", "contents", "table", "static", "fixed", "absolute", "relative",
    "sticky", "visible", "invisible", "italic", "not-italic", "underline",
    "overline", "line-through", "no-underline", "uppercase", "lowercase",
    "capitalize", "normal-case", "truncate", "container", "border", "rounded",
    "shadow", "grow", "shrink", "transition", "transform", "antialiased", "sr-only"]

def patterns : List Pattern :=
  [scale, variant, arbitrary, remnant, keyworded]

/-- Whether the token looks like a utility class. -/
def isRecognized (token : String) : Bool :=
  keywordUtilities.contains (String.ofList (lower token.toList)) ||
    patterns.any fun pattern => pattern.matchesStart token.toList

end UtilityCss.Shape

/-!
# Properties and their defaults

The properties that a block may declare, in groups for display.  Each property
has values that say nothing because it has them anyway, and three values say
nothing for any property.
-/

namespace UtilityCss.Property

/-- The groups in display order, each with its properties in the order in which
they are read. -/
def groups : List (String × List String) :=
  [
    ("Layout",
      ["display", "position", "top", "right", "bottom", "left", "z-index",
        "float", "clear", "overflow", "overflow-x", "overflow-y"]),
    ("Box Model",
      ["width", "height", "min-width", "min-height", "max-width", "max-height",
        "margin", "margin-top", "margin-right", "margin-bottom", "margin-left",
        "padding", "padding-top", "padding-right", "padding-bottom", "padding-left",
        "border", "border-width", "border-style", "border-color",
        "border-radius", "box-sizing"]),
    ("Typography",
      ["font-family", "font-size", "font-weight", "font-style", "line-height",
        "text-align", "text-decoration", "text-transform", "letter-spacing",
        "word-spacing", "white-space"]),
    ("Colors",
      ["color", "background-color", "background-image", "background-size",
        "background-position", "background-repeat", "opacity"]),
    ("Flexbox",
      ["flex", "flex-direction", "flex-wrap", "justify-content", "align-items",
        "align-content", "flex-grow", "flex-shrink", "flex-basis"]),
    ("Grid",
      ["grid-template-columns", "grid-template-rows", "grid-gap", "grid-column",
        "grid-row", "grid-area"]),
    ("Transform & Animation", ["transform", "transition", "animation"])
  ]

/-- Every property that a block may declare. -/
def relevant : List String :=
  groups.flatMap Prod.snd

/-- Values that say nothing for any property, sorted. -/
def neutralValues : List String :=
  ["inherit", "initial", "unset"]

/-- The default values of the properties that have any, both sorted. -/
def defaultValues : List (String × List String) :=
  [
    ("background-color", ["rgba(0, 0, 0, 0)", "transparent"]),
    ("border-width", ["0", "0px"]),
    ("color", ["rgb(0, 0, 0)", "rgba(0, 0, 0, 1)"]),
    ("display", ["block", "inline"]),
    ("font-style", ["normal"]),
    ("font-weight", ["400", "normal"]),
    ("line-height", ["normal"]),
    ("margin", ["0", "0px"]),
    ("margin-bottom", ["0", "0px"]),
    ("margin-left", ["0", "0px"]),
    ("margin-right", ["0", "0px"]),
    ("margin-top", ["0", "0px"]),
    ("opacity", ["1"]),
    ("overflow", ["visible"]),
    ("padding", ["0", "0px"]),
    ("padding-bottom", ["0", "0px"]),
    ("padding-left", ["0", "0px"]),
    ("padding-right", ["0", "0px"]),
    ("padding-top", ["0", "0px"]),
    ("position", ["static"]),
    ("text-align", ["left", "start"]),
    ("text-decoration", ["none"]),
    ("text-transform", ["none"]),
    ("white-space", ["normal"]),
    ("z-index", ["auto"])
  ]

def defaultsOf (property : String) : List String :=
  ((defaultValues.find? fun entry => entry.1 == property).map Prod.snd).getD []

def isDefault (property value : String) : Bool :=
  (defaultsOf property).contains value

/-- A value says something when it is there, is not neutral and is not a
default of its property. -/
def isMeaningful (property value : String) : Bool :=
  value != "" && !neutralValues.contains value && !isDefault property value

end UtilityCss.Property

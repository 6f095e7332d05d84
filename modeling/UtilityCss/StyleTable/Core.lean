import UtilityCss.StyleTable

/-!
# The table of core classes

Computed values of the core utility classes on a plain block element with a
root font size of 16 pixels.  Classes stand in the order in which their rules
are emitted, which is the order in which they win.
-/

namespace UtilityCss.StyleTable

/-- The values of an element without classes. -/
def coreBase : List (String × String) :=
  [
    ("display", "block"),
    ("position", "static"),
    ("z-index", "auto"),
    ("overflow", "visible"),
    ("margin", "0px"),
    ("padding", "0px"),
    ("border-width", "0px"),
    ("font-style", "normal"),
    ("font-weight", "400"),
    ("line-height", "normal"),
    ("text-align", "start"),
    ("text-transform", "none"),
    ("white-space", "normal"),
    ("color", "rgb(0, 0, 0)"),
    ("background-color", "rgba(0, 0, 0, 0)"),
    ("opacity", "1")
  ]

/-- The classes with their declarations. -/
def coreStyles : List (String × List (String × String)) :=
  [
    ("static", [("position", "static")]),
    ("fixed", [("position", "fixed")]),
    ("absolute", [("position", "absolute")]),
    ("relative", [("position", "relative")]),
    ("sticky", [("position", "sticky")]),
    ("inset-0", [("top", "0px"), ("right", "0px"), ("bottom", "0px"), ("left", "0px")]),
    ("top-0", [("top", "0px")]),
    ("right-0", [("right", "0px")]),
    ("bottom-0", [("bottom", "0px")]),
    ("left-0", [("left", "0px")]),
    ("z-10", [("z-index", "10")]),
    ("z-50", [("z-index", "50")]),
    ("m-0", [("margin", "0px")]),
    ("m-2", [("margin", "8px")]),
    ("m-4", [("margin", "16px")]),
    ("mx-auto", [("margin-left", "auto"), ("margin-right", "auto")]),
    ("mt-2", [("margin-top", "8px")]),
    ("mt-4", [("margin-top", "16px")]),
    ("mb-2", [("margin-bottom", "8px")]),
    ("mb-4", [("margin-bottom", "16px")]),
    ("block", [("display", "block")]),
    ("inline-block", [("display", "inline-block")]),
    ("inline", [("display", "inline")]),
    ("flex", [("display", "flex")]),
    ("inline-flex", [("display", "inline-flex")]),
    ("grid", [("display", "grid")]),
    ("hidden", [("display", "none")]),
    ("w-4", [("width", "16px")]),
    ("w-8", [("width", "32px")]),
    ("w-1/2", [("width", "50%")]),
    ("w-full", [("width", "100%")]),
    ("h-4", [("height", "16px")]),
    ("h-8", [("height", "32px")]),
    ("h-full", [("height", "100%")]),
    ("h-screen", [("height", "100vh")]),
    ("max-w-md", [("max-width", "448px")]),
    ("min-h-screen", [("min-height", "100vh")]),
    ("flex-1",
      [("flex", "1 1 0%"),
        ("flex-grow", "1"),
        ("flex-shrink", "1"),
        ("flex-basis", "0%")]),
    ("grow", [("flex-grow", "1")]),
    ("shrink-0", [("flex-shrink", "0")]),
    ("flex-row", [("flex-direction", "row")]),
    ("flex-col", [("flex-direction", "column")]),
    ("flex-wrap", [("flex-wrap", "wrap")]),
    ("grid-cols-2", [("grid-template-columns", "repeat(2, minmax(0, 1fr))")]),
    ("grid-cols-3", [("grid-template-columns", "repeat(3, minmax(0, 1fr))")]),
    ("col-span-2", [("grid-column", "span 2 / span 2")]),
    ("items-start", [("align-items", "flex-start")]),
    ("items-center", [("align-items", "center")]),
    ("items-end", [("align-items", "flex-end")]),
    ("justify-start", [("justify-content", "flex-start")]),
    ("justify-center", [("justify-content", "center")]),
    ("justify-between", [("justify-content", "space-between")]),
    ("gap-2", [("grid-gap", "8px")]),
    ("gap-4", [("grid-gap", "16px")]),
    ("overflow-hidden", [("overflow", "hidden")]),
    ("overflow-auto", [("overflow", "auto")]),
    ("whitespace-nowrap", [("white-space", "nowrap")]),
    ("rounded", [("border-radius", "4px")]),
    ("rounded-md", [("border-radius", "6px")]),
    ("rounded-lg", [("border-radius", "8px")]),
    ("rounded-full", [("border-radius", "9999px")]),
    ("border", [("border-width", "1px"), ("border-style", "solid")]),
    ("border-2", [("border-width", "2px"), ("border-style", "solid")]),
    ("border-gray-200", [("border-color", "rgb(229, 231, 235)")]),
    ("border-blue-500", [("border-color", "rgb(59, 130, 246)")]),
    ("bg-transparent", [("background-color", "rgba(0, 0, 0, 0)")]),
    ("bg-white", [("background-color", "rgb(255, 255, 255)")]),
    ("bg-black", [("background-color", "rgb(0, 0, 0)")]),
    ("bg-gray-100", [("background-color", "rgb(243, 244, 246)")]),
    ("bg-gray-800", [("background-color", "rgb(31, 41, 55)")]),
    ("bg-red-500", [("background-color", "rgb(239, 68, 68)")]),
    ("bg-green-500", [("background-color", "rgb(34, 197, 94)")]),
    ("bg-blue-500", [("background-color", "rgb(59, 130, 246)")]),
    ("bg-blue-600", [("background-color", "rgb(37, 99, 235)")]),
    ("p-0", [("padding", "0px")]),
    ("p-1", [("padding", "4px")]),
    ("p-2", [("padding", "8px")]),
    ("p-4", [("padding", "16px")]),
    ("p-6", [("padding", "24px")]),
    ("p-8", [("padding", "32px")]),
    ("px-2", [("padding-left", "8px"), ("padding-right", "8px")]),
    ("px-4", [("padding-left", "16px"), ("padding-right", "16px")]),
    ("py-1", [("padding-top", "4px"), ("padding-bottom", "4px")]),
    ("py-2", [("padding-top", "8px"), ("padding-bottom", "8px")]),
    ("text-left", [("text-align", "left")]),
    ("text-center", [("text-align", "center")]),
    ("text-right", [("text-align", "right")]),
    ("font-sans", [("font-family", "ui-sans-serif, system-ui, sans-serif")]),
    ("font-mono", [("font-family", "ui-monospace, SFMono-Regular, Menlo, monospace")]),
    ("text-xs", [("font-size", "12px"), ("line-height", "16px")]),
    ("text-sm", [("font-size", "14px"), ("line-height", "20px")]),
    ("text-base", [("font-size", "16px"), ("line-height", "24px")]),
    ("text-lg", [("font-size", "18px"), ("line-height", "28px")]),
    ("text-xl", [("font-size", "20px"), ("line-height", "28px")]),
    ("text-2xl", [("font-size", "24px"), ("line-height", "32px")]),
    ("font-normal", [("font-weight", "400")]),
    ("font-medium", [("font-weight", "500")]),
    ("font-semibold", [("font-weight", "600")]),
    ("font-bold", [("font-weight", "700")]),
    ("uppercase", [("text-transform", "uppercase")]),
    ("lowercase", [("text-transform", "lowercase")]),
    ("capitalize", [("text-transform", "capitalize")]),
    ("italic", [("font-style", "italic")]),
    ("leading-tight", [("line-height", "20px")]),
    ("leading-relaxed", [("line-height", "26px")]),
    ("tracking-wide", [("letter-spacing", "0.4px")]),
    ("text-white", [("color", "rgb(255, 255, 255)")]),
    ("text-black", [("color", "rgb(0, 0, 0)")]),
    ("text-gray-500", [("color", "rgb(107, 114, 128)")]),
    ("text-gray-700", [("color", "rgb(55, 65, 81)")]),
    ("text-red-500", [("color", "rgb(239, 68, 68)")]),
    ("text-blue-500", [("color", "rgb(59, 130, 246)")]),
    ("underline", [("text-decoration", "underline")]),
    ("line-through", [("text-decoration", "line-through")]),
    ("opacity-0", [("opacity", "0")]),
    ("opacity-50", [("opacity", "0.5")]),
    ("opacity-75", [("opacity", "0.75")]),
    ("transition", [("transition", "all 0.15s cubic-bezier(0.4, 0, 0.2, 1)")]),
    ("rotate-45", [("transform", "matrix(0.707107, 0.707107, -0.707107, 0.707107, 0, 0)")]),
    ("scale-105", [("transform", "matrix(1.05, 0, 0, 1.05, 0, 0)")])
  ]

/-- The table that is used when no other is given. -/
def core : StyleTable where
  base := ⟨coreBase⟩
  styles := ⟨coreStyles.map fun style => (style.1, ⟨style.2⟩)⟩
  distinct := by decide

end UtilityCss.StyleTable

import UtilityCss.Settings

/-!
# Configurations

A configuration gives values to keys.  Keys that the program does not know are
kept; keys are texts unless a file says otherwise.
-/

namespace UtilityCss

abbrev Configuration := OrderedMap Atom Value

namespace Configuration

/-- The values of keys that nobody sets. -/
def usual : Configuration :=
  OrderedMap.ofList
    [
      (Atom.text "max_input_length", Value.int Settings.usual.maxInputLength),
      (Atom.text "debounce_ms", Value.int Settings.usual.debounceMilliseconds),
      (Atom.text "enable_syntax_highlighting", Value.bool Settings.usual.highlighting),
      (Atom.text "cache_capacity", Value.int Settings.usual.cacheCapacity),
      (Atom.text "resolver", Value.text "auto"),
      (Atom.text "browser", Value.text "chromium"),
      (Atom.text "styles_file", Value.null),
      (Atom.text "stylesheet", Value.null),
      (Atom.text "launch_timeout_ms", Value.int 30000),
      (Atom.text "log_level", Value.text "WARNING")
    ]

/-- The value of a key. -/
def field? (configuration : Configuration) (key : String) : Option Value :=
  configuration.find? (Atom.text key)

/-- The settings of a processor. -/
def settings (configuration : Configuration) : Except Invalid Settings :=
  Settings.ofMerged configuration.field?

end Configuration

end UtilityCss

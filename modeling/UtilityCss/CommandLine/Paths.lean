import UtilityCss.CommandLine.Arguments
import UtilityCss.Configuration.Layers
import UtilityCss.Files.Path

/-!
# The paths that a run looks at

What a run finds in its surroundings can be collected beforehand: first the
configuration files and whatever the words may name, then the files that the
configuration names.
-/

namespace UtilityCss.CommandLine

/-- The paths of configuration files, and the words that may be paths. -/
def firstPaths (surroundings : Surroundings) (words : List String) : List String :=
  surroundings.globalFile ::
    (surroundings.folders.map fun folder =>
      folder ++ "/" ++ Configuration.projectFileName) ++
    words ++ words.filterMap fun word => (splitArgument word).2

/-- The paths in a configuration. -/
def configuredPaths (configuration : Configuration) : List String :=
  ["styles_file", "stylesheet"].filterMap fun key =>
    match configuration.field? key with
    | some (Value.atom (Atom.text path)) => some (Path.tidy path)
    | _ => none

/-- The paths that the words and the configuration name, as far as the
configuration files are known already. -/
def laterPaths (surroundings : Surroundings) (words : List String) : List String :=
  let named := (words ++ words.filterMap fun word => (splitArgument word).2).map Path.tidy
  match Configuration.gather surroundings [] with
  | (_, Except.ok configuration) => named ++ configuredPaths configuration
  | (_, Except.error _) => named

end UtilityCss.CommandLine

import UtilityCss.Configuration.Variable
import UtilityCss.Files
import UtilityCss.Obstacle

/-!
# Layers of configuration

A configuration is put together from layers, each of which overrides what lies
below it: the usual values, the file for all folders, the file of the closest
folder, the variables, and what was asked for explicitly.
-/

namespace UtilityCss.Configuration

/-- What a file contributes, with what is told about it.  A file that cannot be
opened and a text outside the configuration language contribute nothing; a value
that cannot be made is an obstacle. -/
def ofFile (reader : Yaml.Reader) (path : String) :
    Option Entry → Except Obstacle (Configuration × List Notice)
  | none => Except.ok (OrderedMap.empty, [])
  | some Entry.folder => Except.ok (OrderedMap.empty, [])
  | some Entry.locked => Except.ok (OrderedMap.empty, [Notice.unreadable path])
  | some (Entry.file text) =>
      match reader.load text with
      | Except.ok value =>
          match value.entries? with
          | some entries => Except.ok (⟨entries⟩, [])
          | none => Except.ok (OrderedMap.empty, [Notice.noMapping path])
      | Except.error (Yaml.Problem.malformed _) =>
          Except.ok (OrderedMap.empty, [Notice.unreadable path])
      | Except.error problem => Except.error (Obstacle.ofProblem problem)

/-- The name of a configuration file for one folder and those inside it. -/
def projectFileName : String := "tw2css.yaml"

def ofGlobalFile (surroundings : Surroundings) :
    Except Obstacle (Configuration × List Notice) :=
  ofFile surroundings.reader surroundings.globalFile
    (surroundings.entry? surroundings.globalFile)

/-- Whatever stands under the name in the closest folder counts, a folder too. -/
def ofProjectFile (surroundings : Surroundings) :
    Except Obstacle (Configuration × List Notice) :=
  match surroundings.closest? projectFileName with
  | none => Except.ok (OrderedMap.empty, [])
  | some path => ofFile surroundings.reader path (surroundings.entry? path)

def ofVariables (surroundings : Surroundings) : Configuration × List Notice :=
  let settings := Variable.readAll surroundings.environment
  (OrderedMap.ofList (settings.map fun setting => (setting.1, setting.2.1)),
    settings.flatMap fun setting => setting.2.2)

/-- What was asked for, without the keys that were left open. -/
def ofRequest (entries : List (Atom × Value)) : Configuration :=
  OrderedMap.ofList (entries.filter fun entry => !entry.2.isNull)

/-- The layers from the lowest to the highest as one configuration. -/
def layered (layers : List Configuration) : Configuration :=
  layers.foldl OrderedMap.update OrderedMap.empty

/-- The configuration in the surroundings for a request, after everything that
is told while it is put together. -/
def gather (surroundings : Surroundings) (request : List (Atom × Value)) :
    List Notice × Except Obstacle Configuration :=
  match ofGlobalFile surroundings with
  | Except.error obstacle => ([], Except.error obstacle)
  | Except.ok (globalLayer, globalNotices) =>
      match ofProjectFile surroundings with
      | Except.error obstacle => (globalNotices, Except.error obstacle)
      | Except.ok (projectLayer, projectNotices) =>
          let (variableLayer, variableNotices) := ofVariables surroundings
          (globalNotices ++ projectNotices ++ variableNotices,
            Except.ok (layered
              [usual, globalLayer, projectLayer, variableLayer, ofRequest request]))

end UtilityCss.Configuration

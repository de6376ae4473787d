import ClassAtlas.Batch
import ClassAtlas.Linker.Run
import ClassAtlas.Report.Command
import ClassAtlas.Settings.Toml

/-!
# Projects

A project is a directory with a batch and, if wanted, a file with settings.

* `Settings.path?`, `Settings.load` — the settings of a project.
* `Atlas.load` — the atlas of a batch.
* `Project.wanted` — the files that matter.
-/

namespace ClassAtlas

/-! ## Settings -/

/-- Where settings are looked for in a directory. -/
def Settings.fileNames : List String :=
  [".archgraph/config.toml", "archgraph.toml"]

/-- The places where settings may stand: the given one, or those in the directory. -/
def Settings.candidates (root : String) (given : Option String) : List String :=
  match given with
  | some path => [path]
  | none => Settings.fileNames.map (Files.join root)

/-- The place where settings stand. -/
def Settings.path? (files : Files) (root : String) (given : Option String) : Option String :=
  (Settings.candidates root given).find? files.hasPath

/-- The settings at a place. -/
def Settings.loadFrom (files : Files) (path : String) : Except CommandError Settings := do
  let some document := files.text? path | throw (.unreadable path)
  let some settings := Settings.parse? document | throw (.malformed path)
  return settings

/-- The settings of a project.  Where no place is given, there need not be any. -/
def Settings.load (files : Files) (root : String) (given : Option String) :
    Except CommandError Settings :=
  match Settings.path? files root given, given with
  | some path, _ => Settings.loadFrom files path
  | none, some path => .error (.settingsNotFound path)
  | none, none => .ok {}

/-! ## Batches -/

/-- The batch at a place. -/
def Batch.load (files : Files) (path : String) : Except CommandError Batch := do
  let some text := files.text? path | throw (.unreadable path)
  let some batch := Batch.ofText? text | throw (.malformed path)
  return batch

/-- The atlas of the batch at a place. -/
def Atlas.load (files : Files) (path : String) (settings : Settings) :
    Except CommandError Atlas := do
  let batch ← Batch.load files path
  match Atlas.link batch.context settings.linking files with
  | .ok a => return a
  | .error cause => throw (.linkFailed path cause)

/-- The paths of the files that classes of a batch were read from. -/
def Batch.sourcePaths (b : Batch) : List String :=
  b.classes.filterMap fun c => c.source.map fun o => Source.path o.uri

/-- The paths of a project that matter, as far as they are known from the files at hand. -/
def Project.wanted (files : Files) (root batch : String) (given : Option String) : List String :=
  let sources :=
    match Batch.load files batch with
    | .ok b => b.sourcePaths
    | .error _ => []
  Settings.candidates root given ++ [batch] ++ sources

end ClassAtlas

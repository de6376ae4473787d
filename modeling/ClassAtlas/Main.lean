import ClassAtlas.CommandLine.Run

/-!
# The program

Reads the files that a run needs, and prints its outcome.
-/

namespace ClassAtlas.Program

/-- What stands at a path. -/
def readPath (path : String) : IO (String × Option FileEntry) := do
  try
    let content ← IO.FS.readBinFile path
    return (path, some (.file content))
  catch
    | .noFileOrDirectory _ _ _ => return (path, none)
    | _ => return (path, some .unreadable)

/-- The files at these paths. -/
def readPaths (paths : List String) : IO Files := do
  let table ← paths.mapM readPath
  return fun path => (table.lookup path).join

end ClassAtlas.Program

/-- Runs the program.  The batch has to be read before it is known which sources to read. -/
def main (args : List String) : IO UInt32 := do
  let root := (← IO.currentDir).toString
  let known ← ClassAtlas.Program.readPaths (ClassAtlas.CommandLine.wanted .none root args)
  let files ← ClassAtlas.Program.readPaths (ClassAtlas.CommandLine.wanted known root args)
  let outcome := ClassAtlas.CommandLine.run files root args
  IO.print outcome.output
  IO.eprint outcome.errors
  return outcome.exit.toUInt32

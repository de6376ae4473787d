import ClassAtlas.CommandLine.Arguments
import ClassAtlas.Project

/-!
# Running the program

* `Outcome` — what the program prints, and its exit code.
* `CommandLine.run` — the outcome of arguments in a directory.
-/

namespace ClassAtlas

/-- What a run of the program leaves behind. -/
structure Outcome where
  exit : Nat
  output : String
  errors : String
deriving DecidableEq, Repr, Inhabited

namespace CommandLine

/-- The outcome of an error. -/
def failure (e : CommandError) : Outcome :=
  { exit := 1
    output := ""
    errors := Report.lines <| ("Error: " ++ e.message) ::
      match e.cause? with
      | some cause => ["", "Caused by:", "    " ++ cause.message]
      | none => [] }

/-- The outcome of arguments that ask for no run. -/
def usage : Usage → Outcome
  | .invalid => { exit := 2, output := "", errors := "error: invalid arguments\n" }
  | .help => { exit := 0, output := "", errors := "" }

/-- What a run prints: the answer, ended by a line break. -/
def finishLine (text : String) : String :=
  if text.toList.getLast? = some '\n' then text else text ++ "\n"

/-- The answer to what the arguments ask, in a directory. -/
def answer (files : Files) (root : String) (i : Invocation) : Except CommandError String := do
  let settings ← Settings.load files root i.settings
  let a ← Atlas.load files (Files.join root i.batch) settings
  i.command.run a settings.annotFormat i.format

/-- The outcome of a run in a directory. -/
def run (files : Files) (root : String) (args : List String) : Outcome :=
  match Invocation.parse args with
  | .error u => usage u
  | .ok i =>
    match answer files root i with
    | .ok text => { exit := 0, output := finishLine text, errors := "" }
    | .error e => failure e

/-- The paths that a run would read, as far as they are known from the files at hand. -/
def wanted (files : Files) (root : String) (args : List String) : List String :=
  match Invocation.parse args with
  | .error _ => []
  | .ok i => Project.wanted files root (Files.join root i.batch) i.settings

end CommandLine

end ClassAtlas

import ClassAtlas.Report.Command

/-!
# Arguments

The arguments of the program: options and a subcommand with options of its own.

* `Invocation` — what the arguments ask for.
* `Invocation.parse` — reads the arguments.

The options `--batch`, `--format` and `--config` may stand before or behind the subcommand; behind
it they count more.  At each of the two places an option may stand once.
-/

namespace ClassAtlas

/-- What the arguments ask for. -/
structure Invocation where
  command : Command
  batch : String
  format : OutputFormat
  settings : Option String
deriving DecidableEq, Repr, Inhabited

/-- Why there is nothing to run. -/
inductive Usage where
  /-- The arguments make no sense. -/
  | invalid
  /-- The arguments ask for help or for the version. -/
  | help
deriving DecidableEq, Repr

namespace Invocation

/-- The subcommands. -/
inductive Subcommand where
  | summary
  | deps
  | accessors
  | cycles
  | packages
  | annotations
deriving DecidableEq, Repr

/-- The subcommands by name. -/
def Subcommand.names : List (String × Subcommand) :=
  [("summary", .summary), ("deps", .deps), ("accessors", .accessors), ("cycles", .cycles),
    ("packages", .packages), ("annotations", .annotations)]

/-- Whether a subcommand takes a word. -/
def Subcommand.takesWord : Subcommand → Bool
  | .summary | .cycles => false
  | _ => true

/-- What was found at one place, before or behind the subcommand. -/
structure Found where
  batch : Option String := none
  format : Option OutputFormat := none
  settings : Option String := none
  transitive : Bool := false
  direction : Option String := none
  word : Option String := none

/-! ## Options -/

/-- The options that take a value. -/
inductive ValueOption where
  | batch
  | format
  | settings
  | direction
deriving DecidableEq, Repr

/-- The option of a name; `--direction` belongs to one subcommand. -/
def ValueOption.ofName? (place : Option Subcommand) : String → Option ValueOption
  | "--batch" => some .batch
  | "--format" => some .format
  | "--config" => some .settings
  | "--direction" => if place = some .deps then some .direction else none
  | _ => none

/-- Adds the value of an option.  A path is not empty, a format has a known name, and no option
occurs twice. -/
def Found.set (f : Found) (option : ValueOption) (value : String) : Option Found :=
  match option with
  | .batch =>
    if f.batch.isSome || value.isEmpty then none else some { f with batch := some value }
  | .format =>
    if f.format.isSome then none
    else (OutputFormat.names.lookup value).map fun format => { f with format := some format }
  | .settings =>
    if f.settings.isSome || value.isEmpty then none else some { f with settings := some value }
  | .direction =>
    if f.direction.isSome then none else some { f with direction := some value }

/-- Adds the word that a subcommand takes. -/
def Found.setWord (f : Found) (place : Option Subcommand) (word : String) : Option Found :=
  if place.any Subcommand.takesWord && f.word.isNone then some { f with word := some word }
  else none

/-- How an argument reads. -/
inductive Argument where
  | word (text : String)
  /-- `--`, behind which there are only words. -/
  | dashes
  | long (name : String) (value : Option String)
  | short (letter : Char)

/-- Reads an argument. -/
def Argument.ofText (text : String) : Argument :=
  match text.toList with
  | ['-', '-'] => .dashes
  | '-' :: '-' :: rest =>
    let name := rest.takeWhile (· != '=')
    .long ("--" ++ String.ofList name)
      (match rest.drop name.length with
        | [] => none
        | _ :: value => some (String.ofList value))
  | '-' :: letter :: _ => .short letter
  | _ => .word text

/-- Whether an argument can be the value of an option before it. -/
def Argument.isValue (text : String) : Bool :=
  match Argument.ofText text with
  | .word _ => true
  | _ => false

/-! ## Reading -/

/-- A result that is only there if the arguments make sense. -/
def orInvalid {α : Type} : Option α → Except Usage α
  | some x => .ok x
  | none => .error .invalid

/-- Reads what follows the word `help`: nothing, or one subcommand. -/
def readHelp (args : List String) : Usage :=
  match args with
  | [] => .help
  | [name] => if name == "help" || (Subcommand.names.lookup name).isSome then .help else .invalid
  | _ => .invalid

/-- Reads arguments up to the end, or up to the subcommand, which is returned with what follows.
`place` is the subcommand that was found before. -/
def readArguments (place : Option Subcommand) (f : Found) :
    List String → Except Usage (Found × Option (Subcommand × List String))
  | [] => .ok (f, none)
  | arg :: rest =>
    match Argument.ofText arg with
    | .word text =>
      if place.isSome then do
        readArguments place (← orInvalid (f.setWord place text)) rest
      else if text == "help" then .error (readHelp rest)
      else do
        let command ← orInvalid (Subcommand.names.lookup text)
        return (f, some (command, rest))
    | .dashes => do
      let f ← orInvalid (rest.foldlM (fun f text => f.setWord place text) f)
      return (f, none)
    | .short letter =>
      if letter = 'h' || (letter = 'V' && place.isNone) then .error .help else .error .invalid
    | .long name value =>
      match ValueOption.ofName? place name, value, rest with
      | some option, some value, rest => do
        readArguments place (← orInvalid (f.set option value)) rest
      | some option, none, value :: rest =>
        if Argument.isValue value then do
          readArguments place (← orInvalid (f.set option value)) rest
        else .error .invalid
      | some _, none, [] => .error .invalid
      | none, none, rest =>
        if name == "--help" || (name == "--version" && place.isNone) then .error .help
        else if name == "--transitive" && place == some .deps && !f.transitive then
          readArguments place { f with transitive := true } rest
        else .error .invalid
      | none, some _, _ => .error .invalid

/-- The question that a subcommand asks. -/
def Subcommand.toCommand? (f : Found) : Subcommand → Option Command
  | .summary => some .summary
  | .deps => f.word.map fun word => .deps word f.transitive (f.direction.getD "out")
  | .accessors => f.word.map .accessors
  | .cycles => some .cycles
  | .packages => f.word.map .packages
  | .annotations => f.word.map .annotations

/-- Reads the arguments. -/
def parse (args : List String) : Except Usage Invocation := do
  let (outer, rest) ← readArguments none {} args
  let (subcommand, args) ← orInvalid rest
  let (inner, _) ← readArguments (some subcommand) {} args
  let command ← orInvalid (subcommand.toCommand? inner)
  return {
    command := command
    batch := (inner.batch <|> outer.batch).getD "archgraph-batch.json"
    format := (inner.format <|> outer.format).getD .text
    settings := inner.settings <|> outer.settings }

end Invocation

end ClassAtlas

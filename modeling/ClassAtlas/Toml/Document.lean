import ClassAtlas.Toml.Scalar

/-!
# TOML documents

A document is read in two steps: into statements, and from statements into nested tables.

* `Toml.value` — a value; `Toml.statements` — the lines of a document.
* `Toml.Entries.insert`, `Toml.Entries.define`, `Toml.Entries.append` — what a statement adds.
* `Toml.parse?` — the table that a document stands for.
-/

namespace ClassAtlas.Toml

/-! ## Tables under construction -/

/-- A node of a document. -/
inductive Node where
  | value (v : Toml)
  /-- A table.  It is implicit as long as only keys inside of it were mentioned, and dotted if these
  were parts of a dotted key. -/
  | table (implicit dotted : Bool) (entries : List (String × Node))
  /-- Tables under `[[name]]`. -/
  | tables (items : List (List (String × Node)))

/-- The entries of a table. -/
abbrev Entries :=
  List (String × Node)

namespace Entries

/-- Replaces the node of a key. -/
def replace (es : Entries) (name : String) (node : Node) : Entries :=
  es.map fun entry => if entry.1 == name then (name, node) else entry

/-- Changes the table at a path, creating tables on the way.  The change is told whether the table
is dotted.  A value is no table; a dotted path does not enter a table that has been defined; of
several tables under one name, the last is entered. -/
def alter (dotted : Bool) (change : Bool → Entries → Option Entries) :
    List String → Bool → Entries → Option Entries
  | [], isDotted, es => change isDotted es
  | name :: path, _, es =>
    match es.lookup name with
    | none => do return es ++ [(name, .table true dotted (← alter dotted change path dotted []))]
    | some (.value _) => none
    | some (.tables items) => do
      let last ← alter dotted change path false (← items.getLast?)
      return replace es name (.tables (items.dropLast ++ [last]))
    | some (.table implicit isDotted inner) =>
      if dotted && !implicit then none
      else do
        return replace es name
          (.table implicit isDotted (← alter dotted change path isDotted inner))

/-- Adds a value under a key that is new.  A dotted key adds only to tables that dotted keys
made. -/
def insert (path : List String) (v : Toml) (es : Entries) : Option Entries := do
  let name ← path.getLast?
  alter true (fun isDotted inner =>
    if isDotted == path.dropLast.isEmpty || (inner.lookup name).isSome then none
    else some (inner ++ [(name, .value v)])) path.dropLast false es

/-- Starts the table `[path]`, which must not have been defined before. -/
def define (path : List String) (es : Entries) : Option Entries := do
  let name ← path.getLast?
  alter false (fun _ inner =>
    match inner.lookup name with
    | none => some (inner ++ [(name, .table false false [])])
    | some (.table true false entries) => some (replace inner name (.table false false entries))
    | some _ => none) path.dropLast false es

/-- Starts a further table under `[[path]]`. -/
def append (path : List String) (es : Entries) : Option Entries := do
  let name ← path.getLast?
  alter false (fun _ inner =>
    match inner.lookup name with
    | none => some (inner ++ [(name, .tables [[]])])
    | some (.tables items) => some (replace inner name (.tables (items ++ [[]])))
    | some _ => none) path.dropLast false es

/-- Adds a value to the table that was started last. -/
def insertAt (header path : List String) (v : Toml) (es : Entries) : Option Entries :=
  alter false (fun _ inner => insert path v inner) header false es

end Entries

mutual

/-- The value of a node. -/
def Node.toToml : Node → Toml
  | .value v => v
  | .table _ _ entries => .table (entriesToToml entries)
  | .tables items => .array (tablesToToml items)

def entriesToToml : List (String × Node) → List (String × Toml)
  | [] => []
  | (name, node) :: rest => (name, node.toToml) :: entriesToToml rest

def tablesToToml : List (List (String × Node)) → List Toml
  | [] => []
  | entries :: rest => .table (entriesToToml entries) :: tablesToToml rest

end

/-! ## Values -/

/-- The table of the pairs between braces. -/
def inlineTable (pairs : List (List String × Toml)) : Option Toml := do
  let es ← pairs.foldlM (fun es (path, v) => Entries.insert path v es) []
  return .table (entriesToToml es)

mutual

/-- A value, with at most `room` containers inside each other, read in at most `steps` steps. -/
def valueWithin (room : Nat) : (steps : Nat) → Scan Toml
  | 0, _ => none
  | steps + 1, cs =>
    match cs with
    | '[' :: rest =>
      if room = 0 then none
      else do
        let (items, rest) ← itemsWithin (room - 1) steps rest
        return (.array items, rest)
    | '\x7b' :: rest =>
      if room = 0 then none
      else
        match skipBlanks rest with
        | '\x7d' :: rest => some (.table [], rest)
        | _ => do
          let (pairs, rest) ← pairsWithin (room - 1) steps rest
          return (← inlineTable pairs, rest)
    | '"' :: _ | '\x27' :: _ => do
      let (text, rest) ← anyString cs
      return (.string (String.ofList text), rest)
    | _ => scalar cs

/-- The items of an array up to the closing bracket; a comma may follow the last. -/
def itemsWithin (room : Nat) : (steps : Nat) → Scan (List Toml)
  | 0, _ => none
  | steps + 1, cs =>
    match skipLines cs.length cs with
    | ']' :: rest => some ([], rest)
    | cs => do
      let (v, rest) ← valueWithin room steps cs
      match skipLines rest.length rest with
      | ',' :: rest =>
        let (vs, rest) ← itemsWithin room steps rest
        return (v :: vs, rest)
      | ']' :: rest => return ([v], rest)
      | _ => none

/-- The pairs of an inline table up to the closing brace. -/
def pairsWithin (room : Nat) : (steps : Nat) → Scan (List (List String × Toml))
  | 0, _ => none
  | steps + 1, cs => do
    let (path, rest) ← key cs
    let (v, rest) ← valueWithin room steps (skipBlanks (← expect '=' rest))
    match skipBlanks rest with
    | ',' :: rest =>
      let (pairs, rest) ← pairsWithin room steps rest
      return ((path, v) :: pairs, rest)
    | '\x7d' :: rest => return ([(path, v)], rest)
    | _ => none

end

/-- A value. -/
def value : Scan Toml := fun cs =>
  valueWithin (depthLimit - 1) (2 * cs.length + 1) cs

/-! ## Statements -/

/-- A statement of a document. -/
inductive Statement where
  /-- `path = v` -/
  | assign (path : List String) (v : Toml)
  /-- `[path]` -/
  | define (path : List String)
  /-- `[[path]]` -/
  | append (path : List String)

/-- A statement at the start of a line, up to the end of its last line. -/
def statement : Scan Statement
  | '[' :: '[' :: rest => do
    let (path, rest) ← key rest
    return (.append path, ← endLine (← expect ']' (← expect ']' rest)))
  | '[' :: rest => do
    let (path, rest) ← key rest
    return (.define path, ← endLine (← expect ']' rest))
  | cs => do
    let (path, rest) ← key cs
    let (v, rest) ← value (skipBlanks (← expect '=' rest))
    return (.assign path v, ← endLine rest)

/-- The statements of a text, which has at most `count` lines. -/
def statements : (count : Nat) → List Char → Option (List Statement)
  | 0, _ => none
  | count + 1, cs =>
    match skipLines cs.length cs with
    | [] => some []
    | cs => do
      let (s, rest) ← statement cs
      return s :: (← statements count rest)

/-! ## Documents -/

/-- The table that was started last, and all entries so far. -/
structure State where
  header : List String := []
  entries : Entries := []

/-- Adds a statement. -/
def State.add (s : State) : Statement → Option State
  | .assign path v => do
    return { s with entries := ← s.entries.insertAt s.header path v }
  | .define path => do
    return { header := path, entries := ← s.entries.define path }
  | .append path => do
    return { header := path, entries := ← s.entries.append path }

/-- The text without the mark at its start that tells the order of bytes. -/
def skipMark : List Char → List Char
  | '\uFEFF' :: rest => rest
  | cs => cs

/-- The entries of a document. -/
def parse? (text : String) : Option (List (String × Toml)) := do
  let cs := skipMark text.toList
  let s ← (← statements (cs.length + 1) cs).foldlM State.add {}
  return entriesToToml s.entries

end ClassAtlas.Toml

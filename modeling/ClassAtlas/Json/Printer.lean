import ClassAtlas.Json.Value

/-!
# JSON texts

Values are written in two layouts: on one line without blanks, and indented by two blanks a level.
Only quotes, backslashes and control characters of a string are escaped.
-/

namespace ClassAtlas.Json

/-- A character as it stands in a string literal. -/
def escapeChar (c : Char) : List Char :=
  if c = '"' then ['\\', '"']
  else if c = '\\' then ['\\', '\\']
  else if c = '\x08' then ['\\', 'b']
  else if c = '\x0c' then ['\\', 'f']
  else if c = '\n' then ['\\', 'n']
  else if c = '\r' then ['\\', 'r']
  else if c = '\t' then ['\\', 't']
  else if c.toNat < 0x20 then
    ['\\', 'u', '0', '0', if c.toNat < 0x10 then '0' else '1'] ++ Nat.toDigits 16 (c.toNat % 16)
  else [c]

/-- A string literal. -/
def literal (s : String) : String :=
  String.ofList ('"' :: s.toList.flatMap escapeChar ++ ['"'])

/-- A value that is no container.  Nothing writes a broken one. -/
def scalar : Json → String
  | .bool true => "true"
  | .bool false => "false"
  | .num n => n.text
  | .str s => literal s
  | _ => "null"

mutual

/-- The value on one line, without blanks. -/
def compact : Json → String
  | .arr items => "[" ++ ",".intercalate (compactItems items) ++ "]"
  | .obj entries => "\x7b" ++ ",".intercalate (compactEntries entries) ++ "\x7d"
  | value => value.scalar

def compactItems : List Json → List String
  | [] => []
  | item :: items => item.compact :: compactItems items

def compactEntries : List (String × Json) → List String
  | [] => []
  | (key, value) :: entries => (literal key ++ ":" ++ value.compact) :: compactEntries entries

end

/-- A line break and the indentation of a level. -/
def newline (level : Nat) : String :=
  "\n" ++ String.ofList (List.replicate (2 * level) ' ')

mutual

/-- The value with one line for each part of a container, indented below `level`. -/
def prettyAt (level : Nat) : Json → String
  | .arr [] => "[]"
  | .arr (item :: items) =>
    "[" ++ newline (level + 1) ++
      ("," ++ newline (level + 1)).intercalate (prettyItems (level + 1) (item :: items)) ++
      newline level ++ "]"
  | .obj [] => "\x7b\x7d"
  | .obj (entry :: entries) =>
    "\x7b" ++ newline (level + 1) ++
      ("," ++ newline (level + 1)).intercalate (prettyEntries (level + 1) (entry :: entries)) ++
      newline level ++ "\x7d"
  | value => value.scalar

def prettyItems (level : Nat) : List Json → List String
  | [] => []
  | item :: items => item.prettyAt level :: prettyItems level items

def prettyEntries (level : Nat) : List (String × Json) → List String
  | [] => []
  | (key, value) :: entries =>
    (literal key ++ ": " ++ value.prettyAt level) :: prettyEntries level entries

end

/-- The value with one line for each part of a container. -/
def pretty (value : Json) : String :=
  value.prettyAt 0

end ClassAtlas.Json

import ClassAtlas.Toml.Value

/-!
# Blanks, comments and strings of TOML

* `Toml.skipBlanks`, `Toml.skipLines`, `Toml.endLine` — what stands between the parts of a document.
* `Toml.anyString` — the four kinds of strings.
* `Toml.key` — keys, bare or quoted, joined by dots.
-/

namespace ClassAtlas.Toml

/-! ## Blanks and comments -/

/-- Blanks within a line. -/
def isBlankChar (c : Char) : Bool :=
  c == ' ' || c == '\t'

/-- The text without blanks at its start. -/
def skipBlanks (cs : List Char) : List Char :=
  cs.dropWhile isBlankChar

/-- The characters that may stand in a comment: all but control characters. -/
def isCommentChar (c : Char) : Bool :=
  c == '\t' || (0x20 ≤ c.toNat && c.toNat ≠ 0x7f)

/-- The text behind a line break. -/
def newline? : List Char → Option (List Char)
  | '\n' :: rest => some rest
  | '\r' :: '\n' :: rest => some rest
  | _ => none

/-- The text without a comment at its start. -/
def skipComment : List Char → List Char
  | '#' :: rest => rest.dropWhile isCommentChar
  | cs => cs

/-- The text behind the end of a line, on which nothing but blanks and a comment may stand. -/
def endLine (cs : List Char) : Option (List Char) :=
  match skipComment (skipBlanks cs) with
  | [] => some []
  | rest => newline? rest

/-- The text without the blanks, line breaks and comments at its start, of which there are at most
`count`. -/
def skipLines : (count : Nat) → List Char → List Char
  | 0, cs => cs
  | count + 1, cs =>
    let rest := skipComment (skipBlanks cs)
    match newline? rest with
    | some rest => skipLines count rest
    | none => rest

/-! ## Strings -/

/-- The value of a hexadecimal digit. -/
def hexDigit? (c : Char) : Option Nat :=
  if '0' ≤ c ∧ c ≤ '9' then some (c.toNat - '0'.toNat)
  else if 'a' ≤ c ∧ c ≤ 'f' then some (c.toNat - 'a'.toNat + 10)
  else if 'A' ≤ c ∧ c ≤ 'F' then some (c.toNat - 'A'.toNat + 10)
  else none

/-- The character with a code in hexadecimal digits. -/
def charOfHex? (digits : List Char) : Option Char := do
  let code := (← digits.mapM hexDigit?).foldl (fun n d => n * 16 + d) 0
  if Nat.isValidChar code then some (Char.ofNat code) else none

/-- The characters that stand for themselves in a string with escapes. -/
def isPlainChar (c : Char) : Bool :=
  isCommentChar c && c != '"' && c != '\\'

/-- The characters that stand for themselves in a string without escapes. -/
def isLiteralChar (c : Char) : Bool :=
  isCommentChar c && c != '\x27'

/-- Puts a character in front of what is read. -/
def consChar (c : Char) (read : Option (List Char × List Char)) : Option (List Char × List Char) :=
  read.map fun (value, rest) => (c :: value, rest)

/-- The character that a letter behind a backslash stands for. -/
def escaped? : Char → Option Char
  | 'b' => some '\x08'
  | 't' => some '\t'
  | 'n' => some '\n'
  | 'f' => some '\x0c'
  | 'r' => some '\r'
  | '"' => some '"'
  | '\\' => some '\\'
  | _ => none

/-- A string with escapes, behind its opening quote. -/
def basicString : Scan (List Char)
  | '"' :: rest => some ([], rest)
  | '\\' :: 'u' :: a :: b :: c :: d :: rest =>
    (charOfHex? [a, b, c, d]).bind fun x => consChar x (basicString rest)
  | '\\' :: 'U' :: a :: b :: c :: d :: e :: f :: g :: h :: rest =>
    (charOfHex? [a, b, c, d, e, f, g, h]).bind fun x => consChar x (basicString rest)
  | '\\' :: c :: rest => (escaped? c).bind fun x => consChar x (basicString rest)
  | c :: rest => if isPlainChar c then consChar c (basicString rest) else none
  | [] => none

/-- A string without escapes, behind its opening quote. -/
def literalString : Scan (List Char)
  | '\x27' :: rest => some ([], rest)
  | c :: rest => if isLiteralChar c then consChar c (literalString rest) else none
  | [] => none

/-- A string with escapes over several lines, behind its opening quotes.  A backslash at the end of
a line joins it with the next text; while `joining`, blanks and line breaks are dropped.  Up to two
quotes may stand directly before the closing ones. -/
def multilineBasic (joining : Bool) : Scan (List Char)
  | '"' :: '"' :: '"' :: '"' :: '"' :: rest => some (['"', '"'], rest)
  | '"' :: '"' :: '"' :: '"' :: rest => some (['"'], rest)
  | '"' :: '"' :: '"' :: rest => some ([], rest)
  | '\\' :: 'u' :: a :: b :: c :: d :: rest =>
    (charOfHex? [a, b, c, d]).bind fun x => consChar x (multilineBasic false rest)
  | '\\' :: 'U' :: a :: b :: c :: d :: e :: f :: g :: h :: rest =>
    (charOfHex? [a, b, c, d, e, f, g, h]).bind fun x => consChar x (multilineBasic false rest)
  | '\\' :: c :: rest =>
    if (newline? (skipBlanks (c :: rest))).isSome then multilineBasic true (c :: rest)
    else (escaped? c).bind fun x => consChar x (multilineBasic false rest)
  | '\r' :: '\n' :: rest =>
    if joining then multilineBasic true rest else consChar '\n' (multilineBasic false rest)
  | '\n' :: rest =>
    if joining then multilineBasic true rest else consChar '\n' (multilineBasic false rest)
  | c :: rest =>
    if joining && isBlankChar c then multilineBasic true rest
    else if isPlainChar c || c == '"' then consChar c (multilineBasic false rest)
    else none
  | [] => none

/-- A string without escapes over several lines, behind its opening quotes. -/
def multilineLiteral : Scan (List Char)
  | '\x27' :: '\x27' :: '\x27' :: '\x27' :: '\x27' :: rest => some (['\x27', '\x27'], rest)
  | '\x27' :: '\x27' :: '\x27' :: '\x27' :: rest => some (['\x27'], rest)
  | '\x27' :: '\x27' :: '\x27' :: rest => some ([], rest)
  | '\r' :: '\n' :: rest => consChar '\n' (multilineLiteral rest)
  | '\n' :: rest => consChar '\n' (multilineLiteral rest)
  | c :: rest =>
    if isLiteralChar c || c == '\x27' then consChar c (multilineLiteral rest) else none
  | [] => none

/-- The text without a line break at its start. -/
def skipNewline (cs : List Char) : List Char :=
  (newline? cs).getD cs

/-- A string of one of the four kinds. -/
def anyString : Scan (List Char)
  | '"' :: '"' :: '"' :: rest => multilineBasic false (skipNewline rest)
  | '"' :: rest => basicString rest
  | '\x27' :: '\x27' :: '\x27' :: rest => multilineLiteral (skipNewline rest)
  | '\x27' :: rest => literalString rest
  | _ => none

/-! ## Keys -/

/-- The characters of a bare key. -/
def isBareChar (c : Char) : Bool :=
  c.isAlphanum || c == '_' || c == '-'

/-- One part of a key. -/
def simpleKey : Scan (List Char)
  | '"' :: rest => basicString rest
  | '\x27' :: rest => literalString rest
  | cs =>
    match cs.takeWhile isBareChar with
    | [] => none
    | name => some (name, cs.dropWhile isBareChar)

/-- The parts of a key, of which there are at most `count`, with blanks around each. -/
def keyParts : (count : Nat) → Scan (List String)
  | 0, _ => none
  | count + 1, cs => do
    let (name, rest) ← simpleKey (skipBlanks cs)
    match skipBlanks rest with
    | '.' :: rest =>
      let (names, rest) ← keyParts count rest
      return (String.ofList name :: names, rest)
    | rest => return ([String.ofList name], rest)

/-- A key. -/
def key : Scan (List String) :=
  keyParts (depthLimit - 1)

end ClassAtlas.Toml

import ClassAtlas.Text.Printable

/-!
# Quoted names

Messages show the name they complain about between double quotes, written so that every name can
be told from every other: quotes and backslashes get a backslash, the common controls their letter,
and whatever is not plain its code point, as in `\u{7f}`.
-/

namespace ClassAtlas.Text

/-- A character given by its code point in lower-case hexadecimal digits. -/
def codePoint (c : Char) : List Char :=
  ['\\', 'u', '\x7b'] ++ Nat.toDigits 16 c.toNat ++ ['\x7d']

/-- A character as it stands in a quoted name. -/
def quoteChar (c : Char) : List Char :=
  if c = '\x00' then ['\\', '0']
  else if c = '\t' then ['\\', 't']
  else if c = '\r' then ['\\', 'r']
  else if c = '\n' then ['\\', 'n']
  else if c = '\\' ∨ c = '"' then ['\\', c]
  else if isPlain c then [c]
  else codePoint c

/-- A name between double quotes. -/
def quoted (name : String) : String :=
  String.ofList ('"' :: name.toList.flatMap quoteChar ++ ['"'])

end ClassAtlas.Text

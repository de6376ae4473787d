import ClassAtlas.Text.Ranges

/-!
# Encoded ranges

A range of code points, written in UTF-8, is a union of products: sequences of byte ranges, of which
every choice of one byte each encodes a code point of the range.

* `ByteRange` — a range of bytes.
* `byteSequences` — the sequences of a range of code points, in ascending order.
* `Ranges.sequences` — the sequences of a table.
-/

namespace ClassAtlas.Text

/-- A closed range of bytes. -/
structure ByteRange where
  first : UInt8
  last : UInt8
deriving DecidableEq, Repr, Inhabited

/-- The ranges of code points whose encodings have the same length; surrogates have none. -/
def encodedAlike : Ranges :=
  [(0x0, 0x7F), (0x80, 0x7FF), (0x800, 0xD7FF), (0xE000, 0xFFFF), (0x10000, 0x10FFFF)]

/-- Cuts a range of code points with encodings of the same length where one of the later bytes does
not run through all its values.  `sizes` are the numbers of code points that agree in all but the
last byte, the last two bytes and so on. -/
def cutAtBytes : (sizes : List Nat) → (first last : Nat) → Ranges
  | [], first, last => [(first, last)]
  | size :: sizes, first, last =>
    if first / size = last / size then [(first, last)]
    else
      let wholeFirst := (first + size - 1) / size * size
      let wholeEnd := (last + 1) / size * size
      (if first < wholeFirst then [(first, wholeFirst - 1)] else []) ++
        (if wholeFirst < wholeEnd then cutAtBytes sizes wholeFirst (wholeEnd - 1) else []) ++
        (if wholeEnd ≤ last then [(wholeEnd, last)] else [])

/-- The byte ranges between the encodings of two code points. -/
def bytesBetween (range : Nat × Nat) : List ByteRange :=
  List.zipWith ByteRange.mk (String.utf8EncodeChar (Char.ofNat range.1))
    (String.utf8EncodeChar (Char.ofNat range.2))

/-- The sequences of byte ranges that encode a range of code points. -/
def byteSequences (range : Nat × Nat) : List (List ByteRange) :=
  encodedAlike.flatMap fun alike =>
    let first := max range.1 alike.1
    let last := min range.2 alike.2
    if last < first then []
    else if last < 0x80 then [bytesBetween (first, last)]
    else (cutAtBytes [0x40, 0x1000, 0x40000] first last).map bytesBetween

/-- The sequences of byte ranges that encode the characters of a table. -/
def Ranges.sequences (ranges : Ranges) : List (List ByteRange) :=
  ranges.flatMap byteSequences

end ClassAtlas.Text

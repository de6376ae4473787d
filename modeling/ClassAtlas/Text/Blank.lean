import ClassAtlas.Text.Ranges

/-!
# Blanks

Type names are read with the blanks around them removed.  A blank is a character with the Unicode
property `White_Space`, which is more than the ASCII blanks.
-/

namespace ClassAtlas.Text

/-- The ranges of the property `White_Space`. -/
def blanks : Ranges :=
  [(0x9, 0xD), (0x20, 0x20), (0x85, 0x85), (0xA0, 0xA0), (0x1680, 0x1680), (0x2000, 0x200A),
   (0x2028, 0x2029), (0x202F, 0x202F), (0x205F, 0x205F), (0x3000, 0x3000)]

/-- Whether a character is a blank. -/
def isBlank (c : Char) : Bool :=
  blanks.has c

/-- A text without the blanks at its two ends. -/
def trim (cs : List Char) : List Char :=
  ((cs.dropWhile isBlank).reverse.dropWhile isBlank).reverse

/-- Trimming never lengthens a text. -/
theorem trim_length_le (cs : List Char) : (trim cs).length ≤ cs.length := by
  have drop_le (l : List Char) : (l.dropWhile isBlank).length ≤ l.length :=
    (List.dropWhile_sublist isBlank).length_le
  have h := drop_le (cs.dropWhile isBlank).reverse
  have h' := drop_le cs
  simp only [List.length_reverse] at h
  simp only [trim, List.length_reverse]
  omega

end ClassAtlas.Text

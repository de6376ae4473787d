/-!
# The MD5 digest

The message is padded to blocks of 64 bytes.  Each block changes four words of 32 bits in 64 steps,
and the digest is their bytes at the end, the lowest byte of each word first.
-/

namespace ClassAtlas.Digest.Md5

/-- The four words. -/
structure Words where
  a : UInt32
  b : UInt32
  c : UInt32
  d : UInt32
deriving DecidableEq, Repr

/-- The words at the start. -/
def initial : Words :=
  ⟨0x67452301, 0xefcdab89, 0x98badcfe, 0x10325476⟩

/-- The constant of each step: the whole part of `2 ^ 32 * |sin (step + 1)|`. -/
def sines : List UInt32 :=
  [0xd76aa478, 0xe8c7b756, 0x242070db, 0xc1bdceee, 0xf57c0faf, 0x4787c62a, 0xa8304613, 0xfd469501,
    0x698098d8, 0x8b44f7af, 0xffff5bb1, 0x895cd7be, 0x6b901122, 0xfd987193, 0xa679438e, 0x49b40821,
    0xf61e2562, 0xc040b340, 0x265e5a51, 0xe9b6c7aa, 0xd62f105d, 0x02441453, 0xd8a1e681, 0xe7d3fbc8,
    0x21e1cde6, 0xc33707d6, 0xf4d50d87, 0x455a14ed, 0xa9e3e905, 0xfcefa3f8, 0x676f02d9, 0x8d2a4c8a,
    0xfffa3942, 0x8771f681, 0x6d9d6122, 0xfde5380c, 0xa4beea44, 0x4bdecfa9, 0xf6bb4b60, 0xbebfbc70,
    0x289b7ec6, 0xeaa127fa, 0xd4ef3085, 0x04881d05, 0xd9d4d039, 0xe6db99e5, 0x1fa27cf8, 0xc4ac5665,
    0xf4292244, 0x432aff97, 0xab9423a7, 0xfc93a039, 0x655b59c3, 0x8f0ccc92, 0xffeff47d, 0x85845dd1,
    0x6fa87e4f, 0xfe2ce6e0, 0xa3014314, 0x4e0811a1, 0xf7537e82, 0xbd3af235, 0x2ad7d2bb, 0xeb86d391]

/-- How far each step rotates: four distances to a round of 16 steps, in turn. -/
def rotations : List UInt32 :=
  let round (distances : List UInt32) := (List.replicate 4 distances).flatten
  round [7, 12, 17, 22] ++ round [5, 9, 14, 20] ++ round [4, 11, 16, 23] ++ round [6, 10, 15, 21]

/-- The word rotated to the left. -/
def rotate (x : UInt32) (distance : UInt32) : UInt32 :=
  (x <<< distance) ||| (x >>> (32 - distance))

/-- What a step mixes from three of the words, and the position of the word of the block it adds. -/
def mix (step : Nat) (w : Words) : UInt32 × Nat :=
  if step < 16 then ((w.b &&& w.c) ||| (~~~w.b &&& w.d), step)
  else if step < 32 then ((w.d &&& w.b) ||| (~~~w.d &&& w.c), (5 * step + 1) % 16)
  else if step < 48 then (w.b ^^^ w.c ^^^ w.d, (3 * step + 5) % 16)
  else (w.c ^^^ (w.b ||| ~~~w.d), (7 * step) % 16)

/-- One step. -/
def step (block : List UInt32) (w : Words) (position : Nat) (sine rotation : UInt32) : Words :=
  let (mixed, source) := mix position w
  let sum := mixed + w.a + sine + block.getD source 0
  ⟨w.d, w.b + rotate sum rotation, w.b, w.c⟩

/-- The words after a block of 16 words. -/
def absorb (w : Words) (block : List UInt32) : Words :=
  let steps := (List.range 64).zip (sines.zip rotations)
  let v := steps.foldl (fun w (position, sine, rotation) => step block w position sine rotation) w
  ⟨w.a + v.a, w.b + v.b, w.c + v.c, w.d + v.d⟩

/-- The lowest `count` bytes of a number, the lowest first. -/
def lowBytes : (count : Nat) → Nat → List UInt8
  | 0, _ => []
  | count + 1, n => n.toUInt8 :: lowBytes count (n / 256)

/-- The message with a bit behind it, zeros up to a block less eight bytes, and its length in
bits. -/
def pad (message : List UInt8) : List UInt8 :=
  let zeros := (119 - message.length % 64) % 64
  message ++ [0x80] ++ List.replicate zeros 0 ++ lowBytes 8 (8 * message.length)

/-- Bytes as words of 32 bits, the lowest byte first. -/
def toWords : List UInt8 → List UInt32
  | b₀ :: b₁ :: b₂ :: b₃ :: rest =>
    (b₀.toUInt32 ||| (b₁.toUInt32 <<< 8) ||| (b₂.toUInt32 <<< 16) ||| (b₃.toUInt32 <<< 24)) ::
      toWords rest
  | _ => []

/-- The words after all blocks; `count` is at least their number. -/
def absorbAll : (count : Nat) → Words → List UInt32 → Words
  | 0, w, _ => w
  | _, w, [] => w
  | count + 1, w, message => absorbAll count (absorb w (message.take 16)) (message.drop 16)

/-- The digest of a message. -/
def digest (message : List UInt8) : List UInt8 :=
  let words := toWords (pad message)
  let w := absorbAll words.length initial words
  [w.a, w.b, w.c, w.d].flatMap fun word => lowBytes 4 word.toNat

end Md5

/-- Bytes as two hexadecimal digits each. -/
def hex (bytes : List UInt8) : String :=
  String.ofList <| bytes.flatMap fun b =>
    [Nat.digitChar (b.toNat / 16), Nat.digitChar (b.toNat % 16)]

end ClassAtlas.Digest

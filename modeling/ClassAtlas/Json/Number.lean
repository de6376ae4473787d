import ClassAtlas.Decimal.Shortest

/-!
# Numbers of a JSON text

A number keeps what its text says, since readers differ in what they accept: a line number has to
be written as an integer, an annotation value may be a fraction.

* `Number` — sign, whole part, digits after the point, exponent.
* `Number.toInt?` — the value of an integer in the range of 64 bits.
* `Number.toBinary64?`, `Number.toBinary32?` — the binary fraction a number is read as.
-/

namespace ClassAtlas.Json

open Decimal

/-- A number as it is written.  A whole part has no leading zeros, so its value gives its digits;
`fraction` lists the digits after the point and is empty if there is no point. -/
structure Number where
  negative : Bool
  whole : Nat
  fraction : List Nat
  exponent : Option Int
deriving DecidableEq, Inhabited

/-- The integer `n`, written without point and exponent. -/
def Number.ofInt (n : Int) : Number :=
  { negative := n < 0, whole := n.natAbs, fraction := [], exponent := none }

/-- Whether the number is written as an integer. -/
def Number.isPlain (n : Number) : Bool :=
  n.fraction.isEmpty && n.exponent.isNone

/-- The value of a number that is written as an integer and fits into 64 bits, unsigned if it is not
negative.  A negative zero is a fraction. -/
def Number.toInt? (n : Number) : Option Int :=
  if n.isPlain then
    if n.negative then
      if 0 < n.whole && n.whole ≤ Nat.pow 2 63 then some (-n.whole) else none
    else if n.whole < Nat.pow 2 64 then some n.whole
    else none
  else none

/-! ## Reading a fraction

The digits are gathered into a 64-bit significand as long as they fit.  Further digits before the
point only move the decimal exponent, further digits after it are dropped.  The significand is then
multiplied or divided by a power of ten, which rounds once more.
-/

/-- Appends digits to a significand while the result fits into 64 bits, and returns the digits that
are left. -/
def gather (significand : Nat) : List Nat → Nat × List Nat
  | [] => (significand, [])
  | d :: rest =>
    if significand * 10 + d < Nat.pow 2 64 then gather (significand * 10 + d) rest
    else (significand, d :: rest)

/-- The significand of a number and its decimal exponent. -/
def Number.scientific (n : Number) : Nat × Int :=
  let (head, dropped) := gather 0 ((Nat.toDigits 10 n.whole).map fun c => c.toNat - '0'.toNat)
  let (significand, rest) := gather head n.fraction
  (significand, dropped.length + rest.length - n.fraction.length + n.exponent.getD 0)

/-- The double precision number nearest to `10 ^ n`. -/
def powerOfTen (n : Nat) : Float :=
  Float.ofScientific 1 false n

/-- Divides by `10 ^ n`, in steps of at most `10 ^ 308`. -/
def divideByPower (x : Float) (n : Nat) : Float :=
  if n ≤ 308 then x / powerOfTen n
  else if x == 0 then x
  else divideByPower (x / powerOfTen 308) (n - 308)
termination_by n

/-- `significand · 10 ^ exponent`, if it is not too large. -/
def scale (significand : Nat) (exponent : Int) : Option Float :=
  let x := (UInt64.ofNat significand).toFloat
  if exponent < 0 then some (divideByPower x (-exponent).toNat)
  else if exponent ≤ 308 then
    let y := x * powerOfTen exponent.toNat
    if y.isInf then none else some y
  else if significand = 0 then some x
  else none

/-- The number as a double precision value, if it is in range. -/
def Number.toFloat? (n : Number) : Option Float :=
  let (significand, exponent) := n.scientific
  (scale significand exponent).map fun x => if n.negative then -x else x

/-- The number as a double precision number, if it is in range. -/
def Number.toBinary64? (n : Number) : Option Binary64 :=
  n.toFloat?.map fun x => ⟨x.toBits⟩

/-- The number as a single precision number: an integer of 64 bits is rounded once, any other number
by way of double precision. -/
def Number.toBinary32? (n : Number) : Option Binary32 :=
  match n.toInt? with
  | some value =>
    let size := (UInt64.ofNat value.natAbs).toFloat32
    some ⟨(if value < 0 then -size else size).toBits⟩
  | none => n.toFloat?.map fun x => ⟨x.toFloat32.toBits⟩

/-! ## Writing a fraction -/

/-- The shortest decimal of a binary fraction, always with a digit after the point; none for an
infinity. -/
def Number.ofUnpacked? : Unpacked → Option Number
  | .finite negative mantissa exponent isolated =>
    let (whole, fraction) :=
      if mantissa = 0 then (['0'], []) else (shortest mantissa exponent isolated).parts
    some
      { negative := negative
        whole := whole.foldl (fun n c => n * 10 + (c.toNat - '0'.toNat)) 0
        fraction :=
          if fraction.isEmpty then [0] else fraction.map fun c => c.toNat - '0'.toNat
        exponent := none }
  | .infinite _ | .notANumber => none

/-- The text of a number. -/
def Number.text (n : Number) : String :=
  let sign := if n.negative then "-" else ""
  let fraction :=
    if n.fraction.isEmpty then ""
    else "." ++ String.ofList (n.fraction.map fun d => Char.ofNat ('0'.toNat + d))
  let exponent :=
    match n.exponent with
    | none => ""
    | some e => "e" ++ toString e
  sign ++ toString n.whole ++ fraction ++ exponent

end ClassAtlas.Json

import ClassAtlas.Decimal.Binary

/-!
# The shortest decimal of a binary fraction

A binary fraction is written with the fewest decimal digits that read back to it.  Every real number
nearer to it than to its neighbours reads back to it, and so do the two halfway points if its
mantissa is even: these numbers form its *rounding interval*.  The shortest decimal lies on the
coarsest grid `10 ^ k · ℕ` that meets the interval.  If any point of a grid lies in the interval,
one of the two grid points around the value does, so only these two are tried.

* `Scaled` — `digits · 10 ^ exponent`.
* `shortest` — the shortest decimal of a positive binary fraction.
* `Unpacked.text` — the number in positional notation, never with an exponent.
-/

namespace ClassAtlas.Decimal

/-- The number `digits · 10 ^ exponent`. -/
structure Scaled where
  digits : Nat
  exponent : Int
deriving DecidableEq, Inhabited

/-- A value with its rounding interval, all over the common denominator `scale`. -/
structure Rounding where
  low : Nat
  value : Nat
  high : Nat
  scale : Nat
  closed : Bool

/-- The rounding interval of `mantissa · 2 ^ exponent`, in quarters of the last binary place. -/
def Rounding.of (mantissa : Nat) (exponent : Int) (isolated : Bool) : Rounding :=
  let quarters := exponent - 2
  let up := Nat.pow 2 quarters.toNat
  { low := (4 * mantissa - if isolated then 1 else 2) * up
    value := 4 * mantissa * up
    high := (4 * mantissa + 2) * up
    scale := Nat.pow 2 (-quarters).toNat
    closed := mantissa % 2 = 0 }

/-- Whether `point · unit / scale` lies in the interval. -/
def Rounding.holds (r : Rounding) (point : Nat) : Bool :=
  if r.closed then r.low ≤ point && point ≤ r.high else r.low < point && point < r.high

/-- The grid point nearest to the value among the two around it that lie in the interval; a tie goes
up.  The grid has the step `step / r.scale`, after the interval was scaled by `stretch`. -/
def Rounding.onGrid? (r : Rounding) (step stretch : Nat) : Option Nat :=
  let r := { r with low := r.low * stretch, value := r.value * stretch, high := r.high * stretch }
  let below := r.value / step
  match r.holds (below * step), r.holds ((below + 1) * step) with
  | true, true => if 2 * (r.value - below * step) < step then some below else some (below + 1)
  | true, false => some below
  | false, true => some (below + 1)
  | false, false => none

/-- Tries the grids `10 ^ k`, `10 ^ (k - 1)`, … until one meets the interval. -/
def Rounding.coarsest (r : Rounding) : Nat → Int → Scaled
  | 0, k => ⟨0, k⟩
  | fuel + 1, k =>
    match r.onGrid? (r.scale * Nat.pow 10 k.toNat) (Nat.pow 10 (-k).toNat) with
    | some digits => ⟨digits, k⟩
    | none => r.coarsest fuel (k - 1)

/-- The shortest decimal that reads back to `mantissa · 2 ^ exponent`.  No number of the two
precisions reaches `10 ^ 310`, and each has a decimal of at most 17 digits, so the grids from
`10 ^ 310` down to `10 ^ -360` suffice. -/
def shortest (mantissa : Nat) (exponent : Int) (isolated : Bool) : Scaled :=
  (Rounding.of mantissa exponent isolated).coarsest 670 310

/-- The digits of a decimal before and after its point. -/
def Scaled.parts (d : Scaled) : List Char × List Char :=
  let digits := Nat.toDigits 10 d.digits
  if 0 ≤ d.exponent then
    (digits ++ List.replicate d.exponent.toNat '0', [])
  else
    let places := (-d.exponent).toNat
    if digits.length ≤ places then
      (['0'], List.replicate (places - digits.length) '0' ++ digits)
    else
      (digits.take (digits.length - places), digits.drop (digits.length - places))

/-- A decimal in positional notation. -/
def Scaled.text (d : Scaled) : String :=
  match d.parts with
  | (whole, []) => String.ofList whole
  | (whole, fraction) => String.ofList (whole ++ '.' :: fraction)

/-- The text of a binary fraction: its shortest decimal, without an exponent and without a point if
it is whole. -/
def Unpacked.text : Unpacked → String
  | .notANumber => "NaN"
  | .infinite negative => if negative then "-inf" else "inf"
  | .finite negative mantissa exponent isolated =>
    let size :=
      if mantissa = 0 then "0" else (shortest mantissa exponent isolated).text
    if negative then "-" ++ size else size

/-- The text of a single precision number. -/
def Binary32.text (x : Binary32) : String :=
  x.unpack.text

/-- The text of a double precision number. -/
def Binary64.text (x : Binary64) : String :=
  x.unpack.text

end ClassAtlas.Decimal

/-!
# Binary fractions

Annotation values hold single and double precision numbers.  They are kept by their bits, so that
equality is decidable and `-0` stays apart from `0`.  This file takes such a number apart.

* `Binary32`, `Binary64` — numbers by their bits.
* `Unpacked` — sign, mantissa and binary exponent, or an infinity, or no number.
-/

namespace ClassAtlas.Decimal

/-- A single precision number, by its bits. -/
structure Binary32 where
  bits : UInt32
deriving DecidableEq, Inhabited

/-- A double precision number, by its bits. -/
structure Binary64 where
  bits : UInt64
deriving DecidableEq, Inhabited

/-- A binary fraction taken apart. -/
inductive Unpacked where
  /-- `±mantissa · 2 ^ exponent`; `isolated` if the next smaller number is only half as far away as
  the next larger one. -/
  | finite (negative : Bool) (mantissa : Nat) (exponent : Int) (isolated : Bool)
  | infinite (negative : Bool)
  | notANumber
deriving DecidableEq, Inhabited

/-- Takes apart a number with `fractionBits` stored mantissa bits and `exponentBits` exponent bits
below its sign bit. -/
def unpack (fractionBits exponentBits bits : Nat) : Unpacked :=
  let fraction := bits % Nat.pow 2 fractionBits
  let exponent := bits / Nat.pow 2 fractionBits % Nat.pow 2 exponentBits
  let negative := bits / Nat.pow 2 (fractionBits + exponentBits) % 2 = 1
  let least : Int := 2 - Nat.pow 2 (exponentBits - 1) - fractionBits
  if exponent = Nat.pow 2 exponentBits - 1 then
    if fraction = 0 then .infinite negative else .notANumber
  else if exponent = 0 then
    .finite negative fraction least false
  else
    .finite negative (Nat.pow 2 fractionBits + fraction) (least + (exponent - 1))
      (fraction = 0 && 1 < exponent)

/-- The parts of a single precision number. -/
def Binary32.unpack (x : Binary32) : Unpacked :=
  Decimal.unpack 23 8 x.bits.toNat

/-- The parts of a double precision number. -/
def Binary64.unpack (x : Binary64) : Unpacked :=
  Decimal.unpack 52 11 x.bits.toNat

end ClassAtlas.Decimal

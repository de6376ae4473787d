import ClassAtlas.Toml.Text

/-!
# Numbers, dates and truth values of TOML

A scalar that is no string is a run of letters, digits and the signs `+ - _ . :`; only a date and a
time may be separated by a blank.
-/

namespace ClassAtlas.Toml

/-! ## Digits -/

/-- Digits with single underscores between them, without the underscores. -/
def digits? (isDigit : Char → Bool) : List Char → Option (List Char)
  | [c] => if isDigit c then some [c] else none
  | c :: '_' :: rest => if isDigit c then (digits? isDigit rest).map (c :: ·) else none
  | c :: rest => if isDigit c then (digits? isDigit rest).map (c :: ·) else none
  | [] => none

/-- Decimal digits without leading zeros. -/
def decimal? (cs : List Char) : Option (List Char) := do
  let digits ← digits? Char.isDigit cs
  if digits.head? = some '0' ∧ 1 < cs.length then none else some digits

/-- The number with these digits. -/
def valueOf (base : Nat) (digits : List Char) : Nat :=
  digits.foldl (fun n c => n * base + (hexDigit? c).getD 0) 0

/-- Splits a sign from a number. -/
def splitSign : List Char → Bool × List Char
  | '-' :: rest => (true, rest)
  | '+' :: rest => (false, rest)
  | cs => (false, cs)

/-! ## Integers -/

/-- Whether a digit belongs to a base. -/
def isDigitOf (base : Nat) (c : Char) : Bool :=
  (hexDigit? c).any (· < base)

/-- A number in a base other than ten. -/
def basedInteger? (base : Nat) (cs : List Char) : Option Int := do
  let value := valueOf base (← digits? (isDigitOf base) cs)
  if value < Nat.pow 2 63 then some value else none

/-- An integer of 64 bits. -/
def integer? : List Char → Option Int
  | '0' :: 'x' :: rest => basedInteger? 16 rest
  | '0' :: 'o' :: rest => basedInteger? 8 rest
  | '0' :: 'b' :: rest => basedInteger? 2 rest
  | cs => do
    let (negative, rest) := splitSign cs
    let value := valueOf 10 (← decimal? rest)
    if negative then
      if value ≤ Nat.pow 2 63 then some (-value) else none
    else if value < Nat.pow 2 63 then some value else none

/-! ## Fractions -/

/-- Whether a decimal number rounds to infinity in double precision. -/
def overflows (significand : Nat) (exponent : Int) : Bool :=
  let length : Int := (Nat.toDigits 10 significand).length
  if significand = 0 then false
  else if 310 < length + exponent then true
  else if length + exponent < 309 then false
  else
    let limit := Nat.pow 2 1024 - Nat.pow 2 970
    if exponent < 0 then limit * Nat.pow 10 (-exponent).toNat ≤ significand
    else limit ≤ significand * Nat.pow 10 exponent.toNat

/-- The exponent of a fraction. -/
def exponent? (cs : List Char) : Option Int := do
  let (negative, rest) := splitSign cs
  let value : Int := valueOf 10 (← digits? Char.isDigit rest)
  return if negative then -value else value

/-- Whether a text is a number with a fraction or an exponent.  One that rounds to positive infinity
is none. -/
def isFraction (cs : List Char) : Bool :=
  let (negative, rest) := splitSign cs
  let mantissa := rest.takeWhile fun c => c != 'e' && c != 'E'
  let exponent := rest.drop mantissa.length
  let whole := mantissa.takeWhile (· != '.')
  let fraction := mantissa.drop whole.length
  let parts := do
    let wholeDigits ← decimal? whole
    let fractionDigits ← match fraction with
      | [] => some []
      | _ :: rest => digits? Char.isDigit rest
    let power ← match exponent with
      | [] => some 0
      | _ :: rest => exponent? rest
    return (valueOf 10 (wholeDigits ++ fractionDigits), power - fractionDigits.length)
  match parts with
  | some (significand, power) =>
    !(fraction.isEmpty && exponent.isEmpty) && (negative || !overflows significand power)
  | none => false

/-- Whether a text is an infinity or no number. -/
def isSpecial (cs : List Char) : Bool :=
  let rest := String.ofList (splitSign cs).2
  rest == "inf" || rest == "nan"

/-! ## Dates and times -/

/-- Reads a number of exactly `count` digits from `low` to `high`. -/
def fixed (count low high : Nat) : Scan Nat := fun cs =>
  let digits := cs.take count
  let value := valueOf 10 digits
  if digits.length = count ∧ digits.all Char.isDigit ∧ low ≤ value ∧ value ≤ high then
    some (value, cs.drop count)
  else none

/-- The text behind a character. -/
def expect (c : Char) : List Char → Option (List Char)
  | d :: rest => if c = d then some rest else none
  | [] => none

/-- The number of days of a month. -/
def daysIn (year month : Nat) : Nat :=
  let leap := year % 4 = 0 ∧ (year % 100 ≠ 0 ∨ year % 400 = 0)
  if month = 2 then if leap then 29 else 28
  else if month = 4 ∨ month = 6 ∨ month = 9 ∨ month = 11 then 30
  else 31

/-- The text behind a date. -/
def date? (cs : List Char) : Option (List Char) := do
  let (year, rest) ← fixed 4 0 9999 cs
  let (month, rest) ← fixed 2 1 12 (← expect '-' rest)
  let (_, rest) ← fixed 2 1 (daysIn year month) (← expect '-' rest)
  return rest

/-- The text behind a time. -/
def time? (cs : List Char) : Option (List Char) := do
  let (_, rest) ← fixed 2 0 23 cs
  let (_, rest) ← fixed 2 0 59 (← expect ':' rest)
  let (_, rest) ← fixed 2 0 60 (← expect ':' rest)
  match rest with
  | '.' :: c :: rest => if c.isDigit then some (rest.dropWhile Char.isDigit) else none
  | rest => some rest

/-- Whether a text is the distance from universal time, or empty. -/
def isOffset : List Char → Bool
  | [] | ['Z'] | ['z'] => true
  | sign :: rest =>
    (sign == '+' || sign == '-') &&
      ((do
        let (_, rest) ← fixed 2 0 23 rest
        let (_, rest) ← fixed 2 0 59 (← expect ':' rest)
        return rest.isEmpty) : Option Bool).getD false

/-- Whether a text is a time with an optional offset. -/
def isOffsetTime (cs : List Char) : Bool :=
  (time? cs).any isOffset

/-- Whether a text is a date, a time, or a date with a time behind `T`. -/
def isDatetime (cs : List Char) : Bool :=
  match date? cs with
  | some [] => true
  | some (c :: rest) => (c == 'T' || c == 't') && isOffsetTime rest
  | none => time? cs == some []

/-! ## Scalars -/

/-- The characters of scalars. -/
def isScalarChar (c : Char) : Bool :=
  c.isAlphanum || c == '+' || c == '-' || c == '_' || c == '.' || c == ':'

/-- The scalar that a run of characters stands for. -/
def scalarOf? (run : List Char) : Option Toml :=
  if run = "true".toList then some (.boolean true)
  else if run = "false".toList then some (.boolean false)
  else if isDatetime run then some (.datetime (String.ofList run))
  else if isFraction run || isSpecial run then some (.float (String.ofList run))
  else (integer? run).map .integer

/-- A scalar other than a string. -/
def scalar : Scan Toml := fun cs =>
  let run := cs.takeWhile isScalarChar
  let rest := cs.drop run.length
  match date? run, rest with
  | some [], ' ' :: c :: behind =>
    if c.isDigit then
      let time := (c :: behind).takeWhile isScalarChar
      if isOffsetTime time then
        some (.datetime (String.ofList (run ++ ' ' :: time)), (c :: behind).drop time.length)
      else none
    else some (.datetime (String.ofList run), rest)
  | _, _ => (scalarOf? run).map fun value => (value, rest)

end ClassAtlas.Toml

import ClassAtlas.Json.Value

/-!
# Tokens of a JSON text

The text is cut into tokens first.  A string literal gives the units it spells: a plain character or
an escape is one unit, and the two halves of a surrogate pair are two.  Units are put together to
characters afterwards, so a literal with half a pair is still a token.

* `Token.scan` — the tokens of a text, if every part of it is one.
* `ofUnits?` — the text that units spell.
-/

namespace ClassAtlas.Json

/-- A token of a JSON text.  The text of a string is missing if its units spell none. -/
inductive Token where
  | openArr
  | closeArr
  | openObj
  | closeObj
  | comma
  | colon
  | null
  | bool (value : Bool)
  | num (value : Number)
  | str (text : Option String)
deriving Inhabited

/-! ## String literals -/

/-- The value of a hexadecimal digit. -/
def hexDigit? (c : Char) : Option Nat :=
  if c.isDigit then some (c.toNat - '0'.toNat)
  else if 'a' ≤ c ∧ c ≤ 'f' then some (c.toNat - 'a'.toNat + 10)
  else if 'A' ≤ c ∧ c ≤ 'F' then some (c.toNat - 'A'.toNat + 10)
  else none

/-- The value of four hexadecimal digits. -/
def hexUnit? (a b c d : Char) : Option Nat := do
  let a ← hexDigit? a
  let b ← hexDigit? b
  let c ← hexDigit? c
  let d ← hexDigit? d
  some (((a * 16 + b) * 16 + c) * 16 + d)

/-- The unit an escaped letter stands for. -/
def escapedUnit? : Char → Option Nat
  | '"' => some 0x22
  | '\\' => some 0x5C
  | '/' => some 0x2F
  | 'b' => some 0x08
  | 'f' => some 0x0C
  | 'n' => some 0x0A
  | 'r' => some 0x0D
  | 't' => some 0x09
  | _ => none

/-- Reads a string literal whose opening quote is behind us: its units, `done` before them in
reverse, and the text after its closing quote. -/
def scanString (done : List Nat) : List Char → Option (List Nat × List Char)
  | [] => none
  | '"' :: rest => some (done.reverse, rest)
  | '\\' :: 'u' :: a :: b :: c :: d :: rest =>
    match hexUnit? a b c d with
    | some unit => scanString (unit :: done) rest
    | none => none
  | '\\' :: e :: rest =>
    match escapedUnit? e with
    | some unit => scanString (unit :: done) rest
    | none => none
  | c :: rest => if c.toNat < 0x20 ∨ c = '\\' then none else scanString (c.toNat :: done) rest

/-- The characters that units spell, if no half of a surrogate pair stands alone. -/
def ofUnits? : List Nat → Option (List Char)
  | [] => some []
  | unit :: rest =>
    if 0xD800 ≤ unit ∧ unit < 0xDC00 then
      match rest with
      | low :: rest' =>
        if 0xDC00 ≤ low ∧ low < 0xE000 then
          (ofUnits? rest').map
            (Char.ofNat (0x10000 + (unit - 0xD800) * 0x400 + (low - 0xDC00)) :: ·)
        else none
      | [] => none
    else if 0xDC00 ≤ unit ∧ unit < 0xE000 then none
    else (ofUnits? rest).map (Char.ofNat unit :: ·)

/-! ## Numbers -/

/-- The digits a text starts with, by value, and the rest. -/
def scanDigits (cs : List Char) : List Nat × List Char :=
  ((cs.takeWhile Char.isDigit).map fun c => c.toNat - '0'.toNat, cs.dropWhile Char.isDigit)

/-- The number that digits spell. -/
def ofDigits (digits : List Nat) : Nat :=
  digits.foldl (fun n d => n * 10 + d) 0

/-- The digits after a point, which has to be followed by one at least. -/
def scanFraction : List Char → Option (List Nat × List Char)
  | '.' :: cs =>
    match scanDigits cs with
    | ([], _) => none
    | (digits, rest) => some (digits, rest)
  | cs => some ([], cs)

/-- The exponent with its sign, which has to have one digit at least. -/
def scanPower (negative : Bool) (cs : List Char) : Option (Option Int × List Char) :=
  match scanDigits cs with
  | ([], _) => none
  | (digits, rest) =>
    some (some (if negative then -(ofDigits digits : Int) else ofDigits digits), rest)

/-- The exponent of a number, if it has one. -/
def scanExponent : List Char → Option (Option Int × List Char)
  | c :: cs =>
    if c = 'e' ∨ c = 'E' then
      match cs with
      | '-' :: rest => scanPower true rest
      | '+' :: rest => scanPower false rest
      | rest => scanPower false rest
    else some (none, c :: cs)
  | [] => some (none, [])

/-- A number without its sign.  A whole part of several digits does not start with a zero. -/
def scanUnsigned (negative : Bool) (cs : List Char) : Option (Number × List Char) :=
  match scanDigits cs with
  | ([], _) => none
  | (0 :: _ :: _, _) => none
  | (whole, rest) => do
    let (fraction, rest) ← scanFraction rest
    let (exponent, rest) ← scanExponent rest
    some (⟨negative, ofDigits whole, fraction, exponent⟩, rest)

/-! ## What scanning leaves is shorter -/

private theorem scanString_lt {done : List Nat} {cs : List Char} {units : List Nat}
    {rest : List Char} (h : scanString done cs = some (units, rest)) :
    rest.length < cs.length := by
  fun_induction scanString done cs with
  | case1 => simp at h
  | case2 done rest' => simp_all
  | case3 done a b c d rest' unit _ ih => have := ih h; simp only [List.length_cons]; omega
  | case4 => simp at h
  | case5 done e rest' _ unit _ ih => have := ih h; simp only [List.length_cons]; omega
  | case6 => simp at h
  | case7 => simp at h
  | case8 done c rest' _ _ _ _ ih => have := ih h; simp only [List.length_cons]; omega

private theorem dropWhile_length_le (cs : List Char) :
    (cs.dropWhile Char.isDigit).length ≤ cs.length :=
  (List.dropWhile_sublist Char.isDigit).length_le

private theorem scanDigits_le {cs : List Char} {digits : List Nat} {rest : List Char}
    (h : scanDigits cs = (digits, rest)) : rest.length ≤ cs.length := by
  simp only [scanDigits, Prod.mk.injEq] at h
  exact h.2 ▸ dropWhile_length_le cs

private theorem scanDigits_lt {cs : List Char} {digits : List Nat} {rest : List Char}
    (h : scanDigits cs = (digits, rest)) (hne : digits ≠ []) : rest.length < cs.length := by
  simp only [scanDigits, Prod.mk.injEq] at h
  obtain ⟨hd, hr⟩ := h
  have split : cs.takeWhile Char.isDigit ++ cs.dropWhile Char.isDigit = cs :=
    List.takeWhile_append_dropWhile
  have pos : 0 < (cs.takeWhile Char.isDigit).length := by
    rcases hcs : cs.takeWhile Char.isDigit with _ | ⟨c, t⟩
    · simp [hcs] at hd; exact absurd hd hne
    · simp
  have total := congrArg List.length split
  rw [List.length_append] at total
  rw [← hr]
  omega

private theorem scanFraction_le {cs : List Char} {digits : List Nat} {rest : List Char}
    (h : scanFraction cs = some (digits, rest)) : rest.length ≤ cs.length := by
  unfold scanFraction at h
  split at h
  · split at h
    · simp at h
    · rename_i heq
      simp only [Option.some.injEq, Prod.mk.injEq] at h
      have := scanDigits_le heq
      simp only [List.length_cons]
      rw [← h.2]
      omega
  · simp only [Option.some.injEq, Prod.mk.injEq] at h
    exact Nat.le_of_eq (congrArg List.length h.2.symm)

private theorem scanPower_le {negative : Bool} {cs : List Char} {e : Option Int}
    {rest : List Char} (h : scanPower negative cs = some (e, rest)) : rest.length ≤ cs.length := by
  unfold scanPower at h
  split at h
  · simp at h
  · rename_i heq
    simp only [Option.some.injEq, Prod.mk.injEq] at h
    rw [← h.2]
    exact scanDigits_le heq

private theorem scanExponent_le {cs : List Char} {e : Option Int} {rest : List Char}
    (h : scanExponent cs = some (e, rest)) : rest.length ≤ cs.length := by
  unfold scanExponent at h
  split at h
  · split at h
    · split at h
      all_goals
        have := scanPower_le h
        simp only [List.length_cons] at this ⊢
        omega
    · simp only [Option.some.injEq, Prod.mk.injEq] at h
      exact Nat.le_of_eq (congrArg List.length h.2.symm)
  · simp only [Option.some.injEq, Prod.mk.injEq] at h
    exact Nat.le_of_eq (congrArg List.length h.2.symm)

private theorem scanUnsigned_lt {negative : Bool} {cs : List Char} {n : Number}
    {rest : List Char} (h : scanUnsigned negative cs = some (n, rest)) :
    rest.length < cs.length := by
  unfold scanUnsigned at h
  split at h
  · simp at h
  · simp at h
  · rename_i whole rest' hne _ heq
    simp only [Option.bind_eq_bind, Option.bind_eq_some_iff, Option.some.injEq, Prod.mk.injEq,
      Prod.exists] at h
    obtain ⟨_, r1, h1, _, r2, h2, _, hr⟩ := h
    have a := scanDigits_lt heq hne
    have b := scanFraction_le h1
    have c := scanExponent_le h2
    rw [← hr]
    omega

/-! ## Whole texts -/

/-- Cuts the rest of a text into tokens; `done` are the tokens before it, the last one first. -/
def Token.scanFrom (done : List Token) (cs : List Char) : Option (List Token) :=
  match cs with
  | [] => some done.reverse
  | ' ' :: rest | '\n' :: rest | '\r' :: rest | '\t' :: rest => scanFrom done rest
  | '[' :: rest => scanFrom (.openArr :: done) rest
  | ']' :: rest => scanFrom (.closeArr :: done) rest
  | '\x7b' :: rest => scanFrom (.openObj :: done) rest
  | '\x7d' :: rest => scanFrom (.closeObj :: done) rest
  | ',' :: rest => scanFrom (.comma :: done) rest
  | ':' :: rest => scanFrom (.colon :: done) rest
  | 'n' :: 'u' :: 'l' :: 'l' :: rest => scanFrom (.null :: done) rest
  | 't' :: 'r' :: 'u' :: 'e' :: rest => scanFrom (.bool true :: done) rest
  | 'f' :: 'a' :: 'l' :: 's' :: 'e' :: rest => scanFrom (.bool false :: done) rest
  | '"' :: cs =>
    match h : scanString [] cs with
    | some (units, rest) =>
      have := scanString_lt h
      scanFrom (.str ((ofUnits? units).map String.ofList) :: done) rest
    | none => none
  | '-' :: cs =>
    match h : scanUnsigned true cs with
    | some (n, rest) =>
      have := scanUnsigned_lt h
      scanFrom (.num n :: done) rest
    | none => none
  | c :: cs =>
    match h : scanUnsigned false (c :: cs) with
    | some (n, rest) =>
      have := scanUnsigned_lt h
      scanFrom (.num n :: done) rest
    | none => none
termination_by cs.length
decreasing_by all_goals simp_all only [List.length_cons] <;> omega

/-- The tokens of a text. -/
def Token.scan (text : String) : Option (List Token) :=
  scanFrom [] text.toList

end ClassAtlas.Json

import ClassAtlas.Json.Parser
import ClassAtlas.Json.Printer
import Mathlib.Tactic

/-!
# Reading what was printed

A value is printed by putting the texts of its parts together, and read by cutting the text into
tokens and the tokens into parts again.  Both layouts give the same tokens, as they differ in blanks
only.  A number is read as it was if it is an integer.

* `Plain` — a value with no number but integers, and nothing broken.
* `Scans` — a text is cut into certain tokens, whatever follows it.
* `scans_compact`, `scans_prettyAt` — the text of a value is cut into its tokens.
* `builds_tokens` — the tokens of a value are put together to it.
* `parse?_compact`, `parse?_pretty` — **so a plain value is read as it was printed**.
-/

namespace ClassAtlas.Json

/-- A value whose numbers are integers, with nothing broken in it. -/
inductive Plain : Json → Prop
  | null : Plain .null
  | bool (value : Bool) : Plain (.bool value)
  | int (n : Int) : Plain (.int n)
  | str (s : String) : Plain (.str s)
  | arr {items : List Json} (h : ∀ item ∈ items, Plain item) : Plain (.arr items)
  | obj {entries : List (String × Json)} (h : ∀ entry ∈ entries, Plain entry.2) :
      Plain (.obj entries)

/-! ## String literals -/

lemma toDigits_mod (n : ℕ) : Nat.toDigits 16 (n % 16) = [Nat.digitChar (n % 16)] :=
  Nat.toDigits_of_lt_base (Nat.mod_lt _ (by decide))

lemma hexUnit?_control : ∀ n < 0x20, hexUnit? '0' '0' (if n < 0x10 then '0' else '1')
    (Nat.digitChar (n % 16)) = some n := by
  decide

/-- An escaped character is read as its unit. -/
lemma scanString_escapeChar (c : Char) (done : List Nat) (rest : List Char) :
    scanString done (escapeChar c ++ rest) = scanString (c.toNat :: done) rest := by
  unfold escapeChar
  split_ifs with h₁ h₂ h₃ h₄ h₅ h₆ h₇ h₈ h₉
  · subst h₁; simp [scanString, escapedUnit?]
  · subst h₂; simp [scanString, escapedUnit?]
  · subst h₃; simp [scanString, escapedUnit?]
  · subst h₄; simp [scanString, escapedUnit?]
  · subst h₅; simp [scanString, escapedUnit?]
  · subst h₆; simp [scanString, escapedUnit?]
  · subst h₇; simp [scanString, escapedUnit?]
  · have hunit := hexUnit?_control _ h₈
    rw [if_pos h₉] at hunit
    simp [scanString, toDigits_mod, hunit]
  · have hunit := hexUnit?_control _ h₈
    rw [if_neg h₉] at hunit
    simp [scanString, toDigits_mod, hunit]
  · simp [scanString, h₂, h₈]

/-- A literal is read as the units of its characters. -/
lemma scanString_literal (cs rest : List Char) : ∀ done : List Nat,
    scanString done (cs.flatMap escapeChar ++ '"' :: rest) =
      some (done.reverse ++ cs.map Char.toNat, rest) := by
  induction cs with
  | nil => intro done; simp [scanString]
  | cons c cs ih =>
      intro done
      rw [List.flatMap_cons, List.append_assoc, scanString_escapeChar, ih]
      simp

/-- No character is half of a surrogate pair. -/
lemma ofUnits?_toNat (cs : List Char) : ofUnits? (cs.map Char.toNat) = some cs := by
  induction cs with
  | nil => rfl
  | cons c cs ih =>
      have hvalid : c.toNat < 0xD800 ∨ 0xDFFF < c.toNat ∧ c.toNat < 0x110000 := c.valid
      rw [List.map_cons]
      unfold ofUnits?
      rw [if_neg (by omega), if_neg (by omega), ih]
      simp

/-! ## Numbers -/

/-- A text that ends whatever stands before it, if it is not empty. -/
def Stops (rest : List Char) : Prop :=
  ∀ c ∈ rest.head?, c.isDigit = false ∧ c ≠ '.' ∧ c ≠ 'e' ∧ c ≠ 'E'

lemma stops_nil : Stops [] := by
  intro c hc
  cases hc

lemma Stops.append {text rest : List Char} (h : Stops text) (hrest : Stops rest) :
    Stops (text ++ rest) := by
  cases text with
  | nil => exact hrest
  | cons c text => exact h

/-- The value of a digit. -/
def digitValue (c : Char) : ℕ :=
  c.toNat - '0'.toNat

lemma scanDigits_append {digits rest : List Char} (hdigits : ∀ c ∈ digits, c.isDigit = true)
    (hrest : Stops rest) :
    scanDigits (digits ++ rest) = (digits.map digitValue, rest) := by
  have hfirst : ∀ c ∈ rest.head?, c.isDigit = false := fun c hc => (hrest c hc).1
  have htake : rest.takeWhile Char.isDigit = [] := by
    cases rest with
    | nil => rfl
    | cons c rest => simp [hfirst c rfl]
  have hdrop : rest.dropWhile Char.isDigit = rest := by
    cases rest with
    | nil => rfl
    | cons c rest => simp [hfirst c rfl]
  rw [scanDigits, List.takeWhile_append_of_pos hdigits, List.dropWhile_append_of_pos hdigits,
    htake, hdrop, List.append_nil]
  rfl

lemma ofDigits_toDigits (n : ℕ) : ofDigits ((Nat.toDigits 10 n).map digitValue) = n := by
  have h : Nat.ofDigitChars 10 (Nat.toDigits 10 n) 0 = n := Nat.ofDigitChars_ten_toDigits
  rw [Nat.ofDigitChars_eq_foldl] at h
  simpa [ofDigits, digitValue, List.foldl_map, Nat.mul_comm] using h

/-- The digits of a number that is not zero do not start with a zero. -/
lemma exists_toDigits {n : ℕ} (hn : 0 < n) :
    ∃ c cs, Nat.toDigits 10 n = c :: cs ∧ digitValue c ≠ 0 := by
  induction n using Nat.strong_induction_on with
  | _ n ih =>
      rcases lt_or_ge n 10 with hlt | hge
      · have hdigit : ∀ m < 10, 0 < m → digitValue (Nat.digitChar m) ≠ 0 := by decide
        exact ⟨_, [], Nat.toDigits_of_lt_base hlt, hdigit n hlt hn⟩
      · obtain ⟨c, cs, hcs, hc⟩ := ih (n / 10) (by omega) (by omega)
        rw [Nat.toDigits_of_base_le (by decide) hge, hcs]
        exact ⟨c, cs ++ _, rfl, hc⟩

lemma digits_toDigits (n : ℕ) {first second : ℕ} {rest : List ℕ} :
    (Nat.toDigits 10 n).map digitValue = first :: second :: rest → first ≠ 0 := by
  rcases Nat.eq_zero_or_pos n with rfl | hn
  · simp
  · obtain ⟨c, cs, hcs, hc⟩ := exists_toDigits hn
    rw [hcs, List.map_cons]
    rintro h rfl
    exact hc (List.cons.inj h).1

/-- A whole number is read as it was printed. -/
lemma scanUnsigned_toDigits (negative : Bool) (n : ℕ) {rest : List Char} (hrest : Stops rest) :
    scanUnsigned negative (Nat.toDigits 10 n ++ rest) = some (⟨negative, n, [], none⟩, rest) := by
  have hdigits : ∀ c ∈ Nat.toDigits 10 n, c.isDigit = true := fun c hc =>
    Nat.isDigit_of_mem_toDigits (by decide) (by decide) hc
  have hfraction : scanFraction rest = some ([], rest) := by
    unfold scanFraction
    split
    · exact absurd rfl (hrest '.' rfl).2.1
    · rfl
  have hexponent : scanExponent rest = some (none, rest) := by
    cases rest with
    | nil => rfl
    | cons c rest =>
        obtain ⟨-, -, he, hE⟩ := hrest c rfl
        simp [scanExponent, he, hE]
  unfold scanUnsigned
  rw [scanDigits_append hdigits hrest]
  split
  · rename_i heq
    rw [Prod.mk.injEq, List.map_eq_nil_iff] at heq
    exact absurd heq.1 Nat.toDigits_ne_nil
  · rename_i heq
    exact absurd rfl (digits_toDigits n (congrArg Prod.fst heq))
  · rename_i whole rest' _ _ heq
    rw [Prod.mk.injEq] at heq
    obtain ⟨rfl, rfl⟩ := heq
    simp [hfraction, hexponent, ofDigits_toDigits]

/-! ## Texts and their tokens -/

/-- A text is cut into these tokens, if what follows ends it. -/
def Scans (text : List Char) (tokens : List Token) : Prop :=
  ∀ (done : List Token) (rest : List Char), Stops rest →
    Token.scanFrom done (text ++ rest) = Token.scanFrom (tokens.reverse ++ done) rest

lemma Scans.append {text text' : List Char} {tokens tokens' : List Token} (h : Scans text tokens)
    (h' : Scans text' tokens') (hstop : Stops text') :
    Scans (text ++ text') (tokens ++ tokens') := by
  intro done rest hrest
  rw [List.append_assoc, h _ _ (hstop.append hrest), h' _ _ hrest, List.reverse_append,
    List.append_assoc]

/-- The tokens of a single character. -/
def punctuation : List (Char × Token) :=
  [('[', .openArr), (']', .closeArr), ('\x7b', .openObj), ('\x7d', .closeObj), (',', .comma),
    (':', .colon)]

lemma scanFrom_punctuation {c : Char} {token : Token} (h : (c, token) ∈ punctuation)
    (done : List Token) (rest : List Char) :
    Token.scanFrom done (c :: rest) = Token.scanFrom (token :: done) rest := by
  simp only [punctuation, List.mem_cons, Prod.mk.injEq, List.not_mem_nil, or_false] at h
  rcases h with ⟨rfl, rfl⟩ | ⟨rfl, rfl⟩ | ⟨rfl, rfl⟩ | ⟨rfl, rfl⟩ | ⟨rfl, rfl⟩ | ⟨rfl, rfl⟩ <;>
    rw [Token.scanFrom]

lemma Scans.cons {c : Char} {token : Token} (hc : (c, token) ∈ punctuation) {text : List Char}
    {tokens : List Token} (h : Scans text tokens) : Scans (c :: text) (token :: tokens) := by
  intro done rest hrest
  rw [List.cons_append, scanFrom_punctuation hc, h _ _ hrest]
  simp

lemma scans_nil : Scans [] [] := by
  intro done rest _
  rfl

/-- A text of blanks and line breaks. -/
def Blank (blanks : List Char) : Prop :=
  ∀ c ∈ blanks, c = ' ' ∨ c = '\n'

lemma blank_nil : Blank [] := by
  simp [Blank]

lemma blank_newline (level : ℕ) : Blank (newline level).toList := by
  intro c hc
  simp only [newline, String.toList_append, String.toList_ofList, List.mem_append] at hc
  rcases hc with hc | hc
  · exact Or.inr (by simpa using hc)
  · exact Or.inl (List.eq_of_mem_replicate hc)

/-- Blanks between tokens are passed over. -/
lemma Scans.blanks {text : List Char} {tokens : List Token} (h : Scans text tokens) :
    ∀ {blanks : List Char}, Blank blanks → Scans (blanks ++ text) tokens := by
  intro blanks hblanks
  induction blanks with
  | nil => exact h
  | cons c blanks ih =>
      have ih := ih fun c hc => hblanks c (List.mem_cons_of_mem _ hc)
      intro done rest hrest
      rcases hblanks c (List.mem_cons_self ..) with rfl | rfl <;>
        rw [List.cons_append, List.cons_append, Token.scanFrom, ih done rest hrest]

/-! ## Scalars -/

lemma scans_null : Scans ['n', 'u', 'l', 'l'] [.null] := by
  intro done rest _
  simp [Token.scanFrom]

lemma scans_true : Scans ['t', 'r', 'u', 'e'] [.bool true] := by
  intro done rest _
  simp [Token.scanFrom]

lemma scans_false : Scans ['f', 'a', 'l', 's', 'e'] [.bool false] := by
  intro done rest _
  simp [Token.scanFrom]

lemma scans_literal (s : String) : Scans (literal s).toList [.str (some s)] := by
  intro done rest _
  have hscan := scanString_literal s.toList rest []
  rw [literal, String.toList_ofList, List.cons_append, List.cons_append, List.append_assoc,
    List.singleton_append, Token.scanFrom]
  split
  · rename_i heq
    rw [hscan] at heq
    cases heq
    simp [ofUnits?_toNat]
  · rename_i heq
    rw [hscan] at heq
    cases heq

lemma scanFrom_digit {c : Char} (hc : c.isDigit = true) {cs rest : List Char} {n : Number}
    (h : scanUnsigned false (c :: cs) = some (n, rest)) (done : List Token) :
    Token.scanFrom done (c :: cs) = Token.scanFrom (.num n :: done) rest := by
  rw [Token.scanFrom]
  · split <;> simp_all
  all_goals
    intros
    subst_vars
    exact absurd hc (by decide)

lemma scanFrom_minus {cs rest : List Char} {n : Number}
    (h : scanUnsigned true cs = some (n, rest)) (done : List Token) :
    Token.scanFrom done ('-' :: cs) = Token.scanFrom (.num n :: done) rest := by
  rw [Token.scanFrom]
  split <;> simp_all

lemma toList_text_ofInt (n : Int) : (Number.ofInt n).text.toList =
    (if n < 0 then ['-'] else []) ++ Nat.toDigits 10 n.natAbs := by
  simp only [Number.text, Number.ofInt, List.isEmpty_nil, if_true, String.append_empty,
    String.toList_append, Nat.toString_eq_repr, Nat.toList_repr, decide_eq_true_eq]
  split_ifs <;> rfl

lemma scans_int (n : Int) : Scans (Number.ofInt n).text.toList [.num (.ofInt n)] := by
  intro done rest hrest
  rw [toList_text_ofInt, Number.ofInt]
  split_ifs with hneg
  · have hscan := scanUnsigned_toDigits true n.natAbs hrest
    simp [scanFrom_minus hscan, hneg]
  · have hscan := scanUnsigned_toDigits false n.natAbs hrest
    have hdigit : ∀ c ∈ Nat.toDigits 10 n.natAbs, c.isDigit = true := fun c hc =>
      Nat.isDigit_of_mem_toDigits (by decide) (by decide) hc
    rcases hdigits : Nat.toDigits 10 n.natAbs with _ | ⟨c, cs⟩
    · exact absurd hdigits Nat.toDigits_ne_nil
    · rw [hdigits] at hscan hdigit
      rw [List.cons_append] at hscan
      simp [scanFrom_digit (hdigit c (List.mem_cons_self ..)) hscan, hneg]

/-! ## Tokens of a value -/

mutual

/-- The tokens that a value is printed as. -/
def tokens : Json → List Token
  | .bool value => [.bool value]
  | .num n => [.num n]
  | .str s => [.str (some s)]
  | .arr items => .openArr :: List.intercalate [.comma] (itemTokens items) ++ [.closeArr]
  | .obj entries => .openObj :: List.intercalate [.comma] (entryTokens entries) ++ [.closeObj]
  | .null | .broken => [.null]

def itemTokens : List Json → List (List Token)
  | [] => []
  | item :: items => item.tokens :: itemTokens items

def entryTokens : List (String × Json) → List (List Token)
  | [] => []
  | (key, value) :: entries => (.str (some key) :: .colon :: value.tokens) :: entryTokens entries

end

lemma itemTokens_eq (items : List Json) : itemTokens items = items.map tokens := by
  induction items with
  | nil => rw [itemTokens, List.map_nil]
  | cons item items ih => rw [itemTokens, ih, List.map_cons]

lemma entryTokens_eq (entries : List (String × Json)) : entryTokens entries =
    entries.map fun entry => .str (some entry.1) :: .colon :: entry.2.tokens := by
  induction entries with
  | nil => rw [entryTokens, List.map_nil]
  | cons entry entries ih => rw [entryTokens, ih, List.map_cons]

lemma stops_comma (rest : List Char) : Stops (',' :: rest) := by
  intro c hc
  cases hc
  decide

/-- Parts that are separated by commas, with blanks after them. -/
lemma scans_intercalate {blanks : List Char} (hblanks : Blank blanks)
    {texts : List (List Char)} {parts : List (List Token)} (h : List.Forall₂ Scans texts parts) :
    Scans (List.intercalate (',' :: blanks) texts) (List.intercalate [.comma] parts) := by
  induction h with
  | nil => exact scans_nil
  | cons htext hrest ih =>
      cases hrest with
      | nil => simpa using htext
      | cons hnext hlater =>
          rw [List.intercalate_cons_cons, List.intercalate_cons_cons, List.append_assoc,
            List.append_assoc]
          refine htext.append ?_ (stops_comma _)
          exact (ih.blanks hblanks).cons (by simp [punctuation])

/-! ## Layouts -/

lemma stops_closing {after : List Char} (hafter : Blank after) {c : Char} {token : Token}
    (hc : (c, token) ∈ punctuation) : Stops (after ++ [c]) := by
  intro d hd
  cases after with
  | nil =>
      cases hd
      simp only [punctuation, List.mem_cons, Prod.mk.injEq, List.not_mem_nil, or_false] at hc
      rcases hc with ⟨rfl, -⟩ | ⟨rfl, -⟩ | ⟨rfl, -⟩ | ⟨rfl, -⟩ | ⟨rfl, -⟩ | ⟨rfl, -⟩ <;> decide
  | cons e after =>
      cases hd
      rcases hafter d (List.mem_cons_self ..) with rfl | rfl <;> decide

/-- The parts of a container, in whatever layout. -/
lemma scans_container {opening closing : Char} {first last : Token}
    (hopening : (opening, first) ∈ punctuation) (hclosing : (closing, last) ∈ punctuation)
    {before blanks after : List Char} (hbefore : Blank before) (hblanks : Blank blanks)
    (hafter : Blank after) {texts : List (List Char)} {parts : List (List Token)}
    (h : List.Forall₂ Scans texts parts) :
    Scans (opening :: (before ++ (List.intercalate (',' :: blanks) texts ++ (after ++ [closing]))))
      (first :: List.intercalate [.comma] parts ++ [last]) := by
  have hend : Scans (after ++ [closing]) [last] := (scans_nil.cons hclosing).blanks hafter
  have hparts := (scans_intercalate hblanks h).append hend (stops_closing hafter hclosing)
  exact (hparts.blanks hbefore).cons hopening

lemma compactItems_eq (items : List Json) : compactItems items = items.map compact := by
  induction items with
  | nil => rw [compactItems, List.map_nil]
  | cons item items ih => rw [compactItems, ih, List.map_cons]

lemma compactEntries_eq (entries : List (String × Json)) : compactEntries entries =
    entries.map fun entry => literal entry.1 ++ ":" ++ entry.2.compact := by
  induction entries with
  | nil => rw [compactEntries, List.map_nil]
  | cons entry entries ih => rw [compactEntries, ih, List.map_cons]

lemma prettyItems_eq (level : ℕ) (items : List Json) :
    prettyItems level items = items.map (prettyAt level) := by
  induction items with
  | nil => rw [prettyItems, List.map_nil]
  | cons item items ih => rw [prettyItems, ih, List.map_cons]

lemma prettyEntries_eq (level : ℕ) (entries : List (String × Json)) : prettyEntries level entries =
    entries.map fun entry => literal entry.1 ++ ": " ++ entry.2.prettyAt level := by
  induction entries with
  | nil => rw [prettyEntries, List.map_nil]
  | cons entry entries ih => rw [prettyEntries, ih, List.map_cons]

/-- The text of an array, in whatever layout. -/
lemma scans_arr (text : Json → List Char) {before blanks after : List Char}
    (hbefore : Blank before) (hblanks : Blank blanks) (hafter : Blank after) {items : List Json}
    (h : ∀ item ∈ items, Scans (text item) item.tokens) :
    Scans ('[' :: (before ++ (List.intercalate (',' :: blanks) (items.map text) ++
      (after ++ [']'])))) (Json.arr items).tokens := by
  have hopening : ('[', Token.openArr) ∈ punctuation := by simp [punctuation]
  have hclosing : (']', Token.closeArr) ∈ punctuation := by simp [punctuation]
  have hparts : List.Forall₂ Scans (items.map text) (itemTokens items) := by
    rw [itemTokens_eq, List.forall₂_map_left_iff, List.forall₂_map_right_iff]
    exact List.forall₂_same.mpr h
  rw [tokens]
  exact scans_container hopening hclosing hbefore hblanks hafter hparts

/-- The text of an object, in whatever layout. -/
lemma scans_obj (text : Json → List Char) {before gap blanks after : List Char}
    (hbefore : Blank before) (hgap : Blank gap) (hblanks : Blank blanks) (hafter : Blank after)
    {entries : List (String × Json)}
    (h : ∀ entry ∈ entries, Scans (text entry.2) entry.2.tokens) :
    Scans ('\x7b' :: (before ++ (List.intercalate (',' :: blanks)
      (entries.map fun entry => (literal entry.1).toList ++ ':' :: (gap ++ text entry.2)) ++
      (after ++ ['\x7d'])))) (Json.obj entries).tokens := by
  have hopening : ('\x7b', Token.openObj) ∈ punctuation := by simp [punctuation]
  have hclosing : ('\x7d', Token.closeObj) ∈ punctuation := by simp [punctuation]
  have hcolon : (':', Token.colon) ∈ punctuation := by simp [punctuation]
  have hparts : List.Forall₂ Scans
      (entries.map fun entry => (literal entry.1).toList ++ ':' :: (gap ++ text entry.2))
      (entryTokens entries) := by
    rw [entryTokens_eq, List.forall₂_map_left_iff, List.forall₂_map_right_iff]
    refine List.forall₂_same.mpr fun entry hentry => ?_
    have hvalue := ((h entry hentry).blanks hgap).cons hcolon
    exact (scans_literal entry.1).append hvalue (stops_closing blank_nil hcolon)
  rw [tokens]
  exact scans_container hopening hclosing hbefore hblanks hafter hparts

/-- **The text of a value on one line is cut into its tokens.** -/
theorem scans_compact {v : Json} (h : v.Plain) : Scans v.compact.toList v.tokens := by
  induction h with
  | null => simpa [compact, scalar, tokens] using scans_null
  | bool b =>
      cases b with
      | true => simpa [compact, scalar, tokens] using scans_true
      | false => simpa [compact, scalar, tokens] using scans_false
  | int n => simpa [compact, scalar, tokens, int] using scans_int n
  | str s => simpa [compact, scalar, tokens] using scans_literal s
  | arr _ ih =>
      have hscans := scans_arr (fun v => v.compact.toList) blank_nil blank_nil blank_nil ih
      simpa only [compact, compactItems_eq, String.toList_append, String.toList_intercalate,
        String.reduceToList, List.map_map, Function.comp_def, List.append_assoc, List.cons_append,
        List.nil_append] using hscans
  | obj _ ih =>
      have hscans :=
        scans_obj (fun v => v.compact.toList) blank_nil blank_nil blank_nil blank_nil ih
      simpa only [compact, compactEntries_eq, String.toList_append, String.toList_intercalate,
        String.reduceToList, List.map_map, Function.comp_def, List.append_assoc, List.cons_append,
        List.nil_append] using hscans

/-- **So is the text with one line for each part.** -/
theorem scans_prettyAt {v : Json} (h : v.Plain) :
    ∀ level, Scans (v.prettyAt level).toList v.tokens := by
  induction h with
  | null => intro level; simpa [prettyAt, scalar, tokens] using scans_null
  | bool b =>
      intro level
      cases b with
      | true => simpa [prettyAt, scalar, tokens] using scans_true
      | false => simpa [prettyAt, scalar, tokens] using scans_false
  | int n => intro level; simpa [prettyAt, scalar, tokens, int] using scans_int n
  | str s => intro level; simpa [prettyAt, scalar, tokens] using scans_literal s
  | @arr items _ ih =>
      intro level
      cases items with
      | nil =>
          have hscans := scans_arr (fun _ => []) blank_nil blank_nil blank_nil
            (List.forall_mem_nil fun item : Json => Scans [] item.tokens)
          simpa [prettyAt] using hscans
      | cons item items =>
          have hscans := scans_arr (fun v => (v.prettyAt (level + 1)).toList)
            (blank_newline (level + 1)) (blank_newline (level + 1)) (blank_newline level)
            fun item hitem => ih item hitem (level + 1)
          simpa only [prettyAt, prettyItems_eq, String.toList_append, String.toList_intercalate,
            String.reduceToList, List.map_map, Function.comp_def, List.append_assoc,
            List.cons_append, List.nil_append] using hscans
  | @obj entries _ ih =>
      intro level
      cases entries with
      | nil =>
          have hscans := scans_obj (fun _ => []) blank_nil blank_nil blank_nil blank_nil
            (List.forall_mem_nil fun entry : String × Json => Scans [] entry.2.tokens)
          simpa [prettyAt] using hscans
      | cons entry entries =>
          have hgap : Blank [' '] := by simp [Blank]
          have hscans := scans_obj (fun v => (v.prettyAt (level + 1)).toList)
            (blank_newline (level + 1)) hgap (blank_newline (level + 1)) (blank_newline level)
            fun entry hentry => ih entry hentry (level + 1)
          simpa only [prettyAt, prettyEntries_eq, String.toList_append, String.toList_intercalate,
            String.reduceToList, List.map_map, Function.comp_def, List.append_assoc,
            List.cons_append, List.nil_append] using hscans

/-! ## Putting tokens together -/

/-- Tokens are put together to a value, wherever one has to come. -/
def Builds (tokens : List Token) (v : Json) : Prop :=
  ∀ outer, tokens.foldlM State.step (.value outer) = some (.after v outer)

/-- An array starts like any place where a value has to come, unless it ends at once. -/
lemma foldlM_firstItem {tokens rest : List Token} {v : Json} (h : Builds tokens v)
    (outer : List Frame) : (tokens ++ rest).foldlM State.step (.firstItem outer) =
      (tokens ++ rest).foldlM State.step (.value (.items [] :: outer)) := by
  cases tokens with
  | nil => cases h []
  | cons first tokens =>
      rw [List.cons_append, List.foldlM_cons, List.foldlM_cons]
      cases first with
      | closeArr => cases h []
      | _ => rfl

/-- Items are put together to an array. -/
lemma foldlM_items {items : List Json} : ∀ {v : Json},
    (∀ item ∈ v :: items, Builds item.tokens item) →
    ∀ (done : List Json) (outer : List Frame),
      (List.intercalate [Token.comma] ((v :: items).map tokens) ++ [Token.closeArr]).foldlM
        State.step (.value (.items done :: outer)) =
          some (.after (.arr (done.reverse ++ v :: items)) outer) := by
  induction items with
  | nil =>
      intro v h done outer
      have hv := h v (List.mem_cons_self ..)
      simp [List.foldlM_append, hv _, State.step]
  | cons item items ih =>
      intro v h done outer
      have hv := h v (List.mem_cons_self ..)
      have ih := ih (fun i hi => h i (List.mem_cons_of_mem _ hi)) (v :: done) outer
      rw [List.map_cons, List.map_cons, List.intercalate_cons_cons, List.append_assoc,
        List.append_assoc, List.foldlM_append, hv]
      simpa [State.step] using ih

lemma ofEntries_some (entries : List (String × Json)) :
    ofEntries (entries.map fun entry => (some entry.1, entry.2)) = .obj entries := by
  have hall : (entries.map fun entry => (some entry.1, entry.2)).mapM
      (fun entry : Option String × Json => entry.1.map (·, entry.2)) = some entries := by
    induction entries with
    | nil => rfl
    | cons entry entries ih => simp [ih]
  rw [ofEntries, hall]

/-- Entries are put together to an object. -/
lemma foldlM_entries {entries : List (String × Json)} : ∀ {e : String × Json},
    (∀ entry ∈ e :: entries, Builds entry.2.tokens entry.2) →
    ∀ (done : List (String × Json)) (outer : List Frame),
      (List.intercalate [Token.comma] (entryTokens (e :: entries)) ++ [Token.closeObj]).foldlM
        State.step (.nextKey (done.map fun e => (some e.1, e.2)) outer) =
          some (.after (.obj (done.reverse ++ e :: entries)) outer) := by
  induction entries with
  | nil =>
      intro e h done outer
      have he := h e (List.mem_cons_self ..)
      rw [← ofEntries_some]
      simp [entryTokens, List.foldlM_append, he _, State.step]
  | cons entry entries ih =>
      intro e h done outer
      have he := h e (List.mem_cons_self ..)
      have ih := ih (fun i hi => h i (List.mem_cons_of_mem _ hi)) (e :: done) outer
      rw [entryTokens, entryTokens, List.intercalate_cons_cons, List.append_assoc,
        List.append_assoc, List.foldlM_append]
      simpa [State.step, he _, entryTokens] using ih

lemma exists_intercalate_cons {α : Type} (separator first : List α) (parts : List (List α)) :
    ∃ rest, separator.intercalate (first :: parts) = first ++ rest := by
  cases parts with
  | nil => exact ⟨[], by simp⟩
  | cons part parts => exact ⟨_, by rw [List.intercalate_cons_cons, List.append_assoc]⟩

/-- **The tokens of a value are put together to it.** -/
theorem builds_tokens {v : Json} (h : v.Plain) : Builds v.tokens v := by
  induction h with
  | null | bool | int | str => intro outer; rfl
  | @arr items _ ih =>
      intro outer
      rw [tokens, itemTokens_eq]
      cases items with
      | nil => rfl
      | cons item items =>
          have hitems := foldlM_items ih [] outer
          obtain ⟨rest, hrest⟩ := exists_intercalate_cons [Token.comma] item.tokens
            (items.map tokens)
          rw [List.map_cons, hrest, List.append_assoc,
            ← foldlM_firstItem (ih item (List.mem_cons_self ..))] at hitems
          rw [List.map_cons, hrest, List.cons_append, List.append_assoc]
          exact hitems
  | @obj entries _ ih =>
      intro outer
      rw [tokens]
      cases entries with
      | nil => rfl
      | cons entry entries =>
          have hentries := foldlM_entries ih [] outer
          rw [entryTokens, List.intercalate_cons_cons_left] at hentries ⊢
          exact hentries

/-! ## Texts and values -/

lemma parse?_of_scans {v : Json} (h : v.Plain) {text : String}
    (hscans : Scans text.toList v.tokens) : parse? text = some v := by
  have hscan : Token.scan text = some v.tokens := by
    have hall := hscans [] [] stops_nil
    rw [List.append_nil, List.append_nil] at hall
    rw [Token.scan, hall, Token.scanFrom, List.reverse_reverse]
  simp [parse?, hscan, builds_tokens h []]

/-- **A plain value is read as it was printed on one line.** -/
theorem parse?_compact {v : Json} (h : v.Plain) : parse? v.compact = some v :=
  parse?_of_scans h (scans_compact h)

/-- **So it is from the layout with one line for each part.** -/
theorem parse?_pretty {v : Json} (h : v.Plain) : parse? v.pretty = some v :=
  parse?_of_scans h (scans_prettyAt h 0)

end ClassAtlas.Json

import ClassAtlas.Json.Token

/-!
# From tokens to values

Tokens are put together with a stack of the containers that are open.  Each token takes one state to
the next, so reading a text is a fold over its tokens, and the depth of a text costs no recursion.

* `State` — what is open, and what may come next.
* `State.step` — the state after one more token.
* `Json.parse?` — the value of a whole text.
-/

namespace ClassAtlas.Json

/-- A container that is open, with its completed parts, the last one first. -/
inductive Frame where
  | items (done : List Json)
  /-- An object, in the middle of the value of `key`. -/
  | entries (done : List (Option String × Json)) (key : Option String)
deriving Inhabited

/-- What has been read so far.  `outer` are the containers around the place that is read. -/
inductive State where
  /-- A value has to come. -/
  | value (outer : List Frame)
  /-- An array was opened: its first item or its end comes. -/
  | firstItem (outer : List Frame)
  /-- An object was opened: its first key or its end comes. -/
  | firstKey (outer : List Frame)
  /-- A further key has to come. -/
  | nextKey (done : List (Option String × Json)) (outer : List Frame)
  /-- A key was read, a colon has to come. -/
  | named (done : List (Option String × Json)) (key : Option String) (outer : List Frame)
  /-- A value was completed. -/
  | after (value : Json) (outer : List Frame)
deriving Inhabited

/-- An object with these entries, if all of its keys spell a text. -/
def ofEntries (entries : List (Option String × Json)) : Json :=
  match entries.mapM fun entry => entry.1.map (·, entry.2) with
  | some entries => .obj entries
  | none => .broken

/-- The state after the first token of a value. -/
def State.start (outer : List Frame) : Token → Option State
  | .null => some (.after .null outer)
  | .bool b => some (.after (.bool b) outer)
  | .num n => some (.after (.num n) outer)
  | .str (some s) => some (.after (.str s) outer)
  | .str none => some (.after .broken outer)
  | .openArr => some (.firstItem outer)
  | .openObj => some (.firstKey outer)
  | .closeArr | .closeObj | .comma | .colon => none

/-- The state after one more token, if the token may stand there. -/
def State.step : State → Token → Option State
  | .value outer, token => start outer token
  | .firstItem outer, .closeArr => some (.after (.arr []) outer)
  | .firstItem outer, token => start (.items [] :: outer) token
  | .firstKey outer, .closeObj => some (.after (.obj []) outer)
  | .firstKey outer, .str key => some (.named [] key outer)
  | .firstKey _, _ => none
  | .nextKey done outer, .str key => some (.named done key outer)
  | .nextKey _ _, _ => none
  | .named done key outer, .colon => some (.value (.entries done key :: outer))
  | .named _ _ _, _ => none
  | .after v (.items done :: outer), .comma => some (.value (.items (v :: done) :: outer))
  | .after v (.items done :: outer), .closeArr => some (.after (.arr (v :: done).reverse) outer)
  | .after v (.entries done key :: outer), .comma => some (.nextKey ((key, v) :: done) outer)
  | .after v (.entries done key :: outer), .closeObj =>
    some (.after (ofEntries ((key, v) :: done).reverse) outer)
  | .after _ _, _ => none

/-- The value of a text, if the text is one JSON value with nothing but blanks around it. -/
def parse? (text : String) : Option Json := do
  let tokens ← Token.scan text
  match ← tokens.foldlM State.step (.value []) with
  | .after value [] => some value
  | _ => none

end ClassAtlas.Json

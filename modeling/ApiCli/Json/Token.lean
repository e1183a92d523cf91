import ApiCli.Json.Written

/-! # JSON tokens

The lexical level of JSON as an automaton over characters.

* `Token` is a structural character or a value without parts. What stands between the quotes of
  a string is checked for its form and kept as it is.
* `LexState.step` reads one character; `lex` reads a text as far as it is a sequence of tokens and
  blanks. -/

namespace ApiCli.Json

/-- A lexical element of a JSON text. -/
inductive Token where
  | beginArray
  | endArray
  | beginObject
  | endObject
  | colon
  | comma
  /-- A string, a number, a truth value or `null`. -/
  | scalar (value : Written)
  deriving Repr

/-- Where a reader stands between two characters. Texts read so far are kept backwards. -/
inductive LexState where
  /-- Between tokens. -/
  | between
  /-- Inside a literal name with `rest` missing. -/
  | name (rest : List Char) (value : Written)
  | number (part : NumberPart) (read : List Char)
  /-- Inside a string. -/
  | text (read : List Char)
  /-- After a backslash. -/
  | escape (read : List Char)
  /-- Inside a `\u` escape with `owed + 1` digits missing. -/
  | unicode (read : List Char) (owed : Nat)

/-- The four characters of JSON that mean nothing between tokens. -/
def isBlank (c : Char) : Bool := c = ' ' ∨ c = '\t' ∨ c = '\n' ∨ c = '\r'

namespace LexState

/-- The first character of a token, or a blank. -/
def enter (c : Char) : Option (List Token × LexState) :=
  if isBlank c then some ([], between)
  else if c = '[' then some ([.beginArray], between)
  else if c = ']' then some ([.endArray], between)
  else if c = '\x7b' then some ([.beginObject], between)
  else if c = '\x7d' then some ([.endObject], between)
  else if c = ':' then some ([.colon], between)
  else if c = ',' then some ([.comma], between)
  else if c = '"' then some ([], text [])
  else if c = 'n' then some ([], name ['u', 'l', 'l'] .null)
  else if c = 't' then some ([], name ['r', 'u', 'e'] (.bool true))
  else if c = 'f' then some ([], name ['a', 'l', 's', 'e'] (.bool false))
  else (NumberPart.enter c).map fun (added, part) => ([], number part added.reverse)

/-- The token of a number whose text is kept backwards. -/
def numberToken (read : List Char) : Token := .scalar (.number read.reverse)

/-- One character: the tokens it completes and the state after it. No digit follows a complete
number. -/
def step : LexState → Char → Option (List Token × LexState)
  | between, c => enter c
  | name [] _, _ => none
  | name [last] value, c => if c = last then some ([.scalar value], between) else none
  | name (next :: rest) value, c => if c = next then some ([], name rest value) else none
  | number part read, c =>
    match part.step c with
    | some (added, part) => some ([], number part (added.reverse ++ read))
    | none =>
      if part.final && !c.isDigit then
        (enter c).map fun (tokens, s) => (numberToken read :: tokens, s)
      else none
  | text read, c =>
    if c = '"' then some ([.scalar (.string read.reverse)], between)
    else if c = '\\' then some ([], escape (c :: read))
    else if c < ' ' then none
    else some ([], text (c :: read))
  | escape read, c =>
    if c = 'u' then some ([], unicode (c :: read) 3)
    else (unescapeChar? c).map fun _ => ([], text (c :: read))
  | unicode read owed, c =>
    (Text.hexDigit? c).map fun _ =>
      match owed with
      | 0 => ([], text (c :: read))
      | owed + 1 => ([], unicode (c :: read) owed)

/-- What the end of the text completes. -/
def finish : LexState → Option (List Token)
  | between => some []
  | number part read => if part.final then some [numberToken read] else none
  | _ => none

/-- What a character completes that cannot stand where it does: the number before it, if that ends
there. -/
def leave : LexState → Char → List Token
  | number part read, c => if part.final && !c.isDigit then [numberToken read] else []
  | _, _ => []

/-- The tokens of the rest of a text up to its first fault, and whether it has none. -/
def run : LexState → List Char → List Token × Bool
  | s, [] =>
    match s.finish with
    | some tokens => (tokens, true)
    | none => ([], false)
  | s, c :: rest =>
    match s.step c with
    | none => (s.leave c, false)
    | some (tokens, s) =>
      let (more, whole) := run s rest
      (tokens ++ more, whole)

end LexState

/-- The tokens of a text up to its first fault, and whether it has none. -/
def lex (text : List Char) : List Token × Bool := LexState.between.run text

end ApiCli.Json

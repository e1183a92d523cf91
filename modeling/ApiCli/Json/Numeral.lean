import ApiCli.Json.Basic

/-! # Numbers in JSON texts

A number is held by its text: as written, except that its exponent is written with a lower-case
`e` and always has a sign.

* `NumberPart.step` reads one character of a number, `numeral?` a text that is one.
* An object whose first key is `numberKey` stands for a number too; `ofMembers?` is the value that
  members stand for. -/

namespace ApiCli.Json

/-- Where a reader stands inside a number. -/
inductive NumberPart where
  /-- After the minus sign. -/
  | sign
  /-- After a leading zero, which no digit follows. -/
  | zero
  /-- Within the digits before the point. -/
  | digits
  /-- After the point. -/
  | point
  /-- Within the digits after the point. -/
  | fraction
  /-- After the exponent's letter. -/
  | exponent
  /-- After the exponent's sign. -/
  | exponentSign
  /-- Within the exponent's digits. -/
  | exponentDigits
  deriving DecidableEq, Repr

namespace NumberPart

def final : NumberPart → Bool
  | zero | digits | fraction | exponentDigits => true
  | sign | point | exponent | exponentSign => false

/-- What a number begins with, and the part that leads to. -/
def enter (c : Char) : Option (List Char × NumberPart) :=
  if c = '-' then some ([c], sign)
  else if c = '0' then some ([c], zero)
  else if c.isDigit then some ([c], digits)
  else none

/-- How a number goes on with a character: what the character adds to the text kept, and the
part it leads to. -/
def step : NumberPart → Char → Option (List Char × NumberPart)
  | sign, c =>
    if c = '0' then some ([c], zero) else if c.isDigit then some ([c], digits) else none
  | zero, c =>
    if c = '.' then some ([c], point)
    else if c = 'e' ∨ c = 'E' then some (['e'], exponent) else none
  | digits, c =>
    if c.isDigit then some ([c], digits) else if c = '.' then some ([c], point)
    else if c = 'e' ∨ c = 'E' then some (['e'], exponent) else none
  | point, c => if c.isDigit then some ([c], fraction) else none
  | fraction, c =>
    if c.isDigit then some ([c], fraction)
    else if c = 'e' ∨ c = 'E' then some (['e'], exponent) else none
  | exponent, c =>
    if c = '+' ∨ c = '-' then some ([c], exponentSign)
    else if c.isDigit then some (['+', c], exponentDigits) else none
  | exponentSign, c => if c.isDigit then some ([c], exponentDigits) else none
  | exponentDigits, c => if c.isDigit then some ([c], exponentDigits) else none

/-- The text kept of the rest of a number. -/
def rest? : NumberPart → List Char → Option (List Char)
  | part, [] => if part.final then some [] else none
  | part, c :: rest =>
    match part.step c with
    | none => none
    | some (added, part) => (part.rest? rest).map (added ++ ·)

end NumberPart

/-- The text kept of a text that is a number. -/
def numeral? : List Char → Option (List Char)
  | [] => none
  | c :: rest =>
    match NumberPart.enter c with
    | none => none
    | some (added, part) => (part.rest? rest).map (added ++ ·)

/-- The key of an object that stands for a number. -/
def numberKey : String := "$serde_json::private::Number"

/-- The value that members stand for. An object with `numberKey` in front is the number that its
only member writes as a string. -/
def ofMembers? : List (String × Json) → Option Json
  | [] => some (object [])
  | (key, value) :: rest =>
    if key = numberKey then
      match value, rest with
      | string text, [] => (numeral? text.toList).map fun kept => number (String.ofList kept)
      | _, _ => none
    else some (object ((key, value) :: rest))

end ApiCli.Json

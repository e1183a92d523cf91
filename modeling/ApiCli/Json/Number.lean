import ApiCli.Decimal.Shortest
import ApiCli.Json.Numeral
import ApiCli.Text.Digits

/-! # Numbers of decoded values

A number that is decoded is held as what its text says:

* an integer of up to 128 bits, which has no sign when it is zero;
* a binary64 number, when the text is its shortest decimal in plain notation; very small and
  very large ones are then written in scientific notation;
* the text itself, when it is neither.

`respell` is the text of a number after decoding, and `reread?` a value after decoding. An object
with `numberKey` in front becomes a number then. -/

namespace ApiCli.Json

/-! ## Notations -/

/-- Plain notation of a number at a power of ten. -/
def plain (digits : Nat) (exponent : Int) : List Char :=
  let text := Nat.toDigits 10 digits
  if 0 ≤ exponent then text ++ List.replicate exponent.toNat '0'
  else
    let places := (-exponent).toNat
    let text := List.replicate (places + 1 - text.length) '0' ++ text
    text.take (text.length - places) ++ '.' :: text.drop (text.length - places)

/-- Scientific notation of a number at a power of ten. Its exponent has a sign. -/
def scientific (digits : Nat) (exponent : Int) : List Char :=
  match Nat.toDigits 10 digits with
  | [] => []
  | first :: rest =>
    let order := exponent + rest.length
    let sign := if order < 0 then '-' else '+'
    first :: ((if rest.isEmpty then [] else '.' :: rest) ++
      'e' :: sign :: Nat.toDigits 10 order.natAbs)

/-- The notation of a decoded binary64 number: plain when its first digit stands at a power of ten
from -5 to 15. -/
def spell (digits : Nat) (exponent : Int) : List Char :=
  let order := exponent + Decimal.digitCount digits - 1
  if -5 ≤ order ∧ order ≤ 15 then plain digits exponent else scientific digits exponent

/-! ## Respelling -/

/-- The least natural number with more than 128 bits. -/
def naturalBound : Nat := 340282366920938463463374607431768211456

/-- The greatest natural number whose negation has 128 bits. -/
def negativeBound : Nat := 170141183460469231731687303715884105728

/-- The number that a text without an exponent writes, by its digits and the power of ten they
stand at. -/
def decimal? (text : List Char) : Option (Nat × Int) :=
  match text.span Char.isDigit with
  | (whole, []) => some (Text.decimal whole, 0)
  | (whole, '.' :: fraction) =>
    if fraction.all Char.isDigit then some (Text.decimal (whole ++ fraction), -fraction.length)
    else none
  | _ => none

/-- The spelling of a binary64 number that a text writes in the shortest way, without a sign. -/
def respellBinary? (text : List Char) : Option (List Char) := do
  let (digits, exponent) ← decimal? text
  let (significand, binary) ← Decimal.nearest? (digits * Decimal.power 10 exponent)
  let (digits, exponent) ← Decimal.shortest? .up significand binary
  if plain digits exponent ≠ text then none
  let (digits, exponent) ← Decimal.shortest? .even significand binary
  return spell digits exponent

/-- The spelling of a number without its sign. -/
def respellMagnitude (negative : Bool) (text : List Char) : List Char :=
  let isInteger := text.all Char.isDigit &&
    (if negative then Text.decimal text ≤ negativeBound else Text.decimal text < naturalBound)
  if isInteger then text else (respellBinary? text).getD text

/-- The text of a number after decoding. -/
def respell (text : String) : String :=
  match text.toList with
  | ['-', '0'] => "0"
  | '-' :: magnitude => String.ofList ('-' :: respellMagnitude true magnitude)
  | magnitude => String.ofList (respellMagnitude false magnitude)

mutual

/-- A canonical value after decoding, if it can be decoded. -/
def reread? : Json → Option Json
  | number text => some (number (respell text))
  | array items => (rereadItems? items).map array
  | object members => (rereadMembers? members).bind ofMembers?
  | null => some null
  | bool b => some (bool b)
  | string s => some (string s)

def rereadItems? : List Json → Option (List Json)
  | [] => some []
  | item :: rest =>
    match reread? item with
    | none => none
    | some item => (rereadItems? rest).map (item :: ·)

def rereadMembers? : List (String × Json) → Option (List (String × Json))
  | [] => some []
  | (key, value) :: rest =>
    match reread? value with
    | none => none
    | some value => (rereadMembers? rest).map ((key, value) :: ·)

end

end ApiCli.Json

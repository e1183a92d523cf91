import ApiCli.Flag.Basic
import ApiCli.Text.Digits
import ApiCli.Text.Split

/-! # Argument values

How a word is read as a value of a type, and the form in which the value is kept: a string as
it is, an integer of 64 bits in plain decimal, a truth value as `true` or `false`. -/

namespace ApiCli.Scalar

/-- The words for truth, in lower case. -/
def trueWords : List String := ["y", "yes", "t", "true", "on", "1"]

/-- The words for falsehood, in lower case. -/
def falseWords : List String := ["n", "no", "f", "false", "off", "0"]

/-- A truth value, in any letter case. -/
def readBoolean? (word : String) : Option Bool :=
  let word := Method.asciiLower word
  if trueWords.contains word then some true
  else if falseWords.contains word then some false
  else none

/-- The number of a row of at least one decimal digit. -/
def readDigits? (digits : List Char) : Option Nat :=
  if digits.isEmpty then none else Text.digits? 10 digits

/-- The first number too large for an integer of 64 bits. -/
def integerBound : Int := 9223372036854775808

/-- An integer with an optional sign that fits in 64 bits. -/
def readInteger? (word : String) : Option Int :=
  let value := match word.toList with
    | '-' :: digits => (readDigits? digits).map fun n => -(n : Int)
    | '+' :: digits => (readDigits? digits).map fun n => (n : Int)
    | digits => (readDigits? digits).map fun n => (n : Int)
  value.filter fun n => -integerBound ≤ n && n < integerBound

/-- The kept form of a word, if it is a value of the type. -/
def read? : Scalar → String → Option String
  | string, word => some word
  | integer, word => (readInteger? word).map toString
  | boolean, word => (readBoolean? word).map fun b => if b then "true" else "false"

end ApiCli.Scalar

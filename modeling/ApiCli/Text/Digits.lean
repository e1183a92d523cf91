/-! # Digits

The values of digits, and the hexadecimal digits of values.

* `hexDigit?` reads a hexadecimal digit; `lowerHexDigit` and `upperHexDigit` write one.
* `digits?` is the number that a row of digits writes in a base up to 16, and `decimal` that of
  a row that holds nothing but decimal digits. -/

namespace ApiCli.Text

/-- The value of a hexadecimal digit in either letter case. -/
def hexDigit? (c : Char) : Option Nat :=
  if c.isDigit then some (c.toNat - 48)
  else if 'a' ≤ c ∧ c ≤ 'f' then some (c.toNat - 87)
  else if 'A' ≤ c ∧ c ≤ 'F' then some (c.toNat - 55)
  else none

/-- The lower-case hexadecimal digit of a number below 16. -/
def lowerHexDigit (n : Nat) : Char := Char.ofNat (if n < 10 then 48 + n else 87 + n)

/-- The upper-case hexadecimal digit of a number below 16. -/
def upperHexDigit (n : Nat) : Char := Char.ofNat (if n < 10 then 48 + n else 55 + n)

/-- The value of a digit in a base up to 16. -/
def digit? (base : Nat) (c : Char) : Option Nat := (hexDigit? c).filter (· < base)

/-- The number that digits write in a base up to 16; no digits write zero. -/
def digits? (base : Nat) (digits : List Char) : Option Nat :=
  (digits.mapM (digit? base)).map fun ds => ds.foldl (fun n d => n * base + d) 0

/-- The number of a row of decimal digits. -/
def decimal (digits : List Char) : Nat := digits.foldl (fun n c => n * 10 + (c.toNat - 48)) 0

end ApiCli.Text

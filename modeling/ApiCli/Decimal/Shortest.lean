/-! # Shortest decimals

The shortest decimal of a binary64 number is, among the decimals that round to the number, one
with the fewest digits, and of those the nearest.

* `nearest?` is the binary64 number nearest to a number; it is given as a significand at a power
  of two.
* `shortest?` is its shortest decimal, given as digits at a power of ten. A `Tie` says which of two
  equally near ones is taken. -/

namespace ApiCli.Decimal

/-- The power of a base to any exponent. -/
def power (base : Nat) (exponent : Int) : Rat :=
  if 0 ≤ exponent then (Nat.pow base exponent.toNat : Nat)
  else mkRat 1 (Nat.pow base (-exponent).toNat)

/-- The nearest integer of a number that is not negative; of two the even one. -/
def roundEven (x : Rat) : Nat :=
  let below := x.floor.toNat
  let rest := x - (below : Rat)
  if rest < mkRat 1 2 ∨ (rest = mkRat 1 2 ∧ below % 2 = 0) then below else below + 1

/-! ## Binary numbers -/

/-- The least exponent of a binary64 number. -/
def leastExponent : Int := -1074

/-- The first significand with one bit too many. -/
def significandBound : Nat := 9007199254740992

/-- The significand and exponent of the binary64 number nearest to a positive number, unless it
is zero or infinite. -/
def nearest? (x : Rat) : Option (Nat × Int) :=
  let bits : Int := x.num.toNat.log2 - x.den.log2
  let exponent := max leastExponent ((if x < power 2 bits then bits - 1 else bits) - 52)
  let significand := roundEven (x / power 2 exponent)
  if significand = 0 ∨ power 2 1024 ≤ significand * power 2 exponent then none
  else if significand = significandBound then some (significand / 2, exponent + 1)
  else some (significand, exponent)

/-- Whether a number rounds to the binary64 number of a significand and exponent. Below a power
of two the neighbours lie closer. -/
def roundsTo (significand : Nat) (exponent : Int) (x : Rat) : Bool :=
  let value := significand * power 2 exponent
  let half := power 2 (exponent - 1)
  let halfBelow :=
    if significand = significandBound / 2 ∧ leastExponent < exponent then power 2 (exponent - 2)
    else half
  if significand % 2 = 0 then value - halfBelow ≤ x && x ≤ value + half
  else value - halfBelow < x && x < value + half

/-! ## Decimals -/

/-- Which of two decimals is taken that are equally near. -/
inductive Tie where
  /-- The greater one. -/
  | up
  /-- The one with the even last digit. -/
  | even
  deriving DecidableEq, Repr

/-- The nearest multiple of a power of ten that rounds to a binary64 number. -/
def multiple? (tie : Tie) (significand : Nat) (binary exponent : Int) : Option Nat :=
  let value := significand * power 2 binary / power 10 exponent
  let below := value.floor.toNat
  let rounds := fun (n : Nat) => roundsTo significand binary (n * power 10 exponent)
  match rounds below, rounds (below + 1) with
  | false, false => none
  | true, false => some below
  | false, true => some (below + 1)
  | true, true =>
    let rest := 2 * (value - (below : Rat))
    if rest < 1 ∨ (rest = 1 ∧ tie = .even ∧ below % 2 = 0) then some below else some (below + 1)

/-- The first of some powers of ten, from `exponent` downwards, of which a multiple rounds to a
binary64 number, and that multiple. -/
def firstMultiple? (tie : Tie) (significand : Nat) (binary : Int) :
    Nat → Int → Option (Nat × Int)
  | 0, _ => none
  | count + 1, exponent =>
    match multiple? tie significand binary exponent with
    | some n => some (n, exponent)
    | none => firstMultiple? tie significand binary count (exponent - 1)

/-- The number of decimal digits of a number. -/
def digitCount (n : Nat) : Nat := (Nat.toDigits 10 n).length

/-- How many digits tell all binary64 numbers apart. -/
def maxDigits : Nat := 17

/-- The first power of ten above a positive number. -/
def orderAbove (x : Rat) : Int :=
  let order : Int := digitCount x.num.toNat - digitCount x.den
  if x < power 10 order then order else order + 1

/-- The shortest decimal of a binary64 number: its digits, the last of which is not zero, and the
power of ten they stand at. -/
def shortest? (tie : Tie) (significand : Nat) (binary : Int) : Option (Nat × Int) :=
  firstMultiple? tie significand binary (maxDigits + 1)
    (orderAbove (significand * power 2 binary))

end ApiCli.Decimal

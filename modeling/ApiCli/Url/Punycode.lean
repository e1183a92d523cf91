/-! # Punycode

Labels of a domain name with characters beyond ASCII are written in ASCII: the ASCII characters
first, then, after a hyphen, where the others are inserted, as differences in a number system of
base 36 whose digits end a number when they are below a threshold. The thresholds follow a bias
that adapts to the differences seen. -/

namespace ApiCli.Punycode

/-- The digit of a value below 36. -/
def digit (value : Nat) : Char := Char.ofNat (if value < 26 then 97 + value else 22 + value)

def value? (c : Char) : Option Nat :=
  if 'a' ≤ c ∧ c ≤ 'z' then some (c.toNat - 97)
  else if 'A' ≤ c ∧ c ≤ 'Z' then some (c.toNat - 65)
  else if '0' ≤ c ∧ c ≤ '9' then some (c.toNat - 22)
  else none

/-- The threshold of the digit at a position, which counts in steps of 36. -/
def threshold (position bias : Nat) : Nat := min 26 (max 1 (position - bias))

/-- Divide by 35 while the difference is large. -/
def damp (delta bias : Nat) : Nat :=
  if 455 < delta then damp (delta / 35) (bias + 36) else bias + 36 * delta / (delta + 38)
termination_by delta

/-- The bias after a difference, with `count` characters placed. -/
def adapt (delta count : Nat) (first : Bool) : Nat :=
  let delta := if first then delta / 700 else delta / 2
  damp (delta + delta / count) 0

def digits (position bias delta : Nat) : List Char :=
  let t := threshold position bias
  if delta < t then [digit delta]
  else digit (t + (delta - t) % (36 - t)) :: digits (position + 36) bias ((delta - t) / (36 - t))
termination_by delta
decreasing_by
  have : 1 ≤ threshold position bias := by unfold threshold; omega
  have := Nat.div_le_self (delta - threshold position bias) (36 - threshold position bias)
  omega

/-! ## Writing -/

structure Encoder where
  /-- The digits written. -/
  written : List Char
  delta : Nat
  bias : Nat
  /-- The characters placed. -/
  placed : Nat

/-- One character of the label while the code point `point` is being placed. -/
def Encoder.visit (basic point : Nat) (e : Encoder) (c : Char) : Encoder :=
  if c.toNat < point then { e with delta := e.delta + 1 }
  else if c.toNat = point then
    { written := e.written ++ digits 36 e.bias e.delta
      delta := 0
      bias := adapt e.delta (e.placed + 1) (e.placed = basic)
      placed := e.placed + 1 }
  else e

/-- Place every occurrence of the code points, which increase; `next` is the first code point
not yet looked at. -/
def Encoder.place (label : List Char) (basic : Nat) : Nat → Encoder → List Nat → Encoder
  | _, e, [] => e
  | next, e, point :: rest =>
    let e := { e with delta := e.delta + (point - next) * (e.placed + 1) }
    let e := label.foldl (Encoder.visit basic point) e
    Encoder.place label basic (point + 1) { e with delta := e.delta + 1 } rest

/-- The label in ASCII, without a mark that it is so written. -/
def encode (label : List Char) : List Char :=
  let basic := label.filter fun c => c.toNat < 128
  let points := ((label.map Char.toNat).filter (128 ≤ ·)).mergeSort.eraseReps
  let e := Encoder.place label basic.length 128 ⟨[], 0, 72, basic.length⟩ points
  (if basic.isEmpty then [] else basic ++ ['-']) ++ e.written

/-! ## Reading -/

structure Decoder where
  /-- The characters placed. -/
  label : List Char
  point : Nat
  /-- The place of the next character, with what is read of its difference. -/
  index : Nat
  bias : Nat
  /-- `index` as it was before the difference. -/
  before : Nat
  weight : Nat
  position : Nat

/-- The greatest weight of a digit, in 32 bits. -/
def maxWeight : Nat := 4294967295

/-- The decoder in front of a difference. -/
def Decoder.start (label : List Char) (point index bias : Nat) : Decoder :=
  ⟨label, point, index, bias, index, 1, 36⟩

def Decoder.step (d : Decoder) (c : Char) : Option Decoder := do
  let value ← value? c
  let index := d.index + value * d.weight
  let t := threshold d.position d.bias
  if t ≤ value then
    let weight := d.weight * (36 - t)
    if maxWeight < weight then none
    return { d with index, weight, position := d.position + 36 }
  let count := d.label.length + 1
  let point := d.point + index / count
  let index := index % count
  if 0x10FFFF < point || (0xD800 ≤ point && point ≤ 0xDFFF) then none
  let bias := adapt (d.index + value * d.weight - d.before) count (d.before = 0)
  let label := d.label.take index ++ Char.ofNat point :: d.label.drop index
  return Decoder.start label point (index + 1) bias

/-- The text up to the last hyphen, and the text after it. -/
def breakAtLastHyphen (s : List Char) : List Char × List Char :=
  let after := (s.reverse.takeWhile (· ≠ '-')).reverse
  ((s.take (s.length - after.length)).dropLast, after)

/-- The label that a text in ASCII writes. -/
def decode? (s : List Char) : Option (List Char) := do
  let (basic, rest) := breakAtLastHyphen s
  if basic.any fun c => 128 ≤ c.toNat then none
  let d ← rest.foldlM Decoder.step (Decoder.start basic 128 0 72)
  if d.position = 36 then return d.label else none

end ApiCli.Punycode

/-! # Runs of characters

Tables of characters are lists of runs: every `stride`-th code point from `first` to `last`. A
`CharShift` moves all characters of a run by one distance. -/

namespace ApiCli.Text

/-- The code points `first`, `first + stride`, … up to `last`. -/
structure CharRun where
  first : Nat
  last : Nat
  stride : Nat
  deriving DecidableEq, Repr

/-- Whether the code point `n` belongs to the run. -/
def CharRun.contains (r : CharRun) (n : Nat) : Bool :=
  r.first ≤ n && n ≤ r.last && (n - r.first) % r.stride == 0

/-- A run whose characters all move by one distance. -/
structure CharShift where
  run : CharRun
  distance : Int
  deriving DecidableEq, Repr

/-- The character at the shift's distance. -/
def CharShift.apply (s : CharShift) (c : Char) : Char :=
  Char.ofNat (c.toNat + s.distance).toNat

end ApiCli.Text

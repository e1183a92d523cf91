/-! # UTF-8

Reading octets as text, one octet at a time.

* `scan` splits a sequence of octets into characters; where the octets cannot be continued to
  a character it yields `none` once for the longest beginning of one.
* `decode?` accepts exactly the sequences without such a gap, `decodeLossy` writes U+FFFD for
  each gap.
* `encode` is the other direction. -/

namespace ApiCli.Utf8

/-- Where a reader stands between two octets. -/
inductive State where
  /-- Between characters. -/
  | start
  /-- Inside a character: `owed + 1` octets are missing, the next of them lies between `low`
  and `high`, and `value` holds the bits read so far. -/
  | inside (owed : Nat) (low high : UInt8) (value : Nat)
  deriving DecidableEq, Repr

/-- What the octet between characters opens: a whole character, the inside of one, or
nothing. -/
def lead (b : UInt8) : Option (Char ⊕ State) :=
  if b < 0x80 then some (.inl (Char.ofNat b.toNat))
  else if b < 0xC2 then none
  else if b < 0xE0 then some (.inr (.inside 0 0x80 0xBF (b.toNat - 0xC0)))
  else if b < 0xF0 then
    some (.inr (.inside 1 (if b = 0xE0 then 0xA0 else 0x80) (if b = 0xED then 0x9F else 0xBF)
      (b.toNat - 0xE0)))
  else if b < 0xF5 then
    some (.inr (.inside 2 (if b = 0xF0 then 0x90 else 0x80) (if b = 0xF4 then 0x8F else 0xBF)
      (b.toNat - 0xF0)))
  else none

/-- One octet read between characters. -/
def enter (b : UInt8) : List (Option Char) × State :=
  match lead b with
  | some (.inl c) => ([some c], .start)
  | some (.inr s) => ([], s)
  | none => ([none], .start)

/-- One octet: what it completes, and where the reader stands after it. An octet that does
not continue the character begun leaves a gap and is read afresh. -/
def step : State → UInt8 → List (Option Char) × State
  | .start, b => enter b
  | .inside owed low high value, b =>
    if low ≤ b ∧ b ≤ high then
      let value := value * 64 + (b.toNat - 0x80)
      match owed with
      | 0 => ([some (Char.ofNat value)], .start)
      | owed + 1 => ([], .inside owed 0x80 0xBF value)
    else
      let (read, s) := enter b
      (none :: read, s)

/-- The characters of a sequence of octets, `none` for each gap. -/
def scan : State → List UInt8 → List (Option Char)
  | .start, [] => []
  | .inside .., [] => [none]
  | s, b :: rest => (step s b).1 ++ scan (step s b).2 rest

/-- The text that the octets encode, if they encode one. -/
def decode? (bytes : List UInt8) : Option (List Char) := (scan .start bytes).mapM id

/-- The text of the octets with U+FFFD in place of every gap. -/
def decodeLossy (bytes : List UInt8) : List Char :=
  (scan .start bytes).map fun c => c.getD '\uFFFD'

def encode (text : List Char) : List UInt8 := text.flatMap String.utf8EncodeChar

end ApiCli.Utf8

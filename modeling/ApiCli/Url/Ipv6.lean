import ApiCli.Url.Ipv4

/-! # Addresses of 128 bits

Eight pieces of 16 bits in hexadecimal with colons between them. Two colons in a row, at most
once, stand for the pieces that are missing, and the last two pieces may be written as an
address of 32 bits. -/

namespace ApiCli.Ipv6

/-- A piece: one to four hexadecimal digits. -/
def piece? (part : List Char) : Option Nat :=
  if part.isEmpty || 4 < part.length then none else Text.digits? 16 part

/-- One of the four numbers of an embedded address: up to 255, without a leading zero. -/
def octet? (part : List Char) : Option Nat :=
  match part with
  | [] => none
  | '0' :: _ :: _ => none
  | part => (Text.digits? 10 part).filter (· < 256)

/-- The two pieces of an embedded address. -/
def embedded? (part : List Char) : Option (List Nat) :=
  match Text.splitChars '.' part |>.mapM octet? with
  | some [a, b, c, d] => some [a * 256 + b, c * 256 + d]
  | _ => none

/-- The pieces of parts between colons; with `tail`, the last part may be an embedded
address. -/
def pieces? (tail : Bool) : List (List Char) → Option (List Nat)
  | [] => some []
  | [part] =>
    if tail && part.contains '.' then embedded? part else (piece? part).map fun n => [n]
  | part :: rest => do return (← piece? part) :: (← pieces? tail rest)

/-- The pieces of a text without two colons in a row; the empty text has none. -/
def run? (tail : Bool) (s : List Char) : Option (List Nat) :=
  if s.isEmpty then some [] else pieces? tail (Text.splitChars ':' s)

/-- The text before the first two colons in a row, and the text after them if there are. -/
def breakAtGap : List Char → List Char × Option (List Char)
  | ':' :: ':' :: rest => ([], some rest)
  | c :: rest =>
    let (before, after) := breakAtGap rest
    (c :: before, after)
  | [] => ([], none)

def parse? (s : List Char) : Option (List Nat) :=
  match breakAtGap s with
  | (s, none) => (run? true s).filter fun pieces => pieces.length = 8
  | (before, some after) => do
    let before ← run? false before
    let after ← run? true after
    let present := before.length + after.length
    if present ≤ 7 then return before ++ List.replicate (8 - present) 0 ++ after else none

/-! ## The text of an address -/

/-- How many zeros a list begins with. -/
def leadingZeros (pieces : List Nat) : Nat := (pieces.takeWhile (· = 0)).length

/-- The place and length of the longest run of zeros, the first one of equals. -/
def longestZeros (index : Nat) : List Nat → Nat × Nat
  | [] => (index, 0)
  | piece :: rest =>
    let here := leadingZeros (piece :: rest)
    let later := longestZeros (index + 1) rest
    if later.2 ≤ here then (index, here) else later

def hex (n : Nat) : String := String.ofList (Nat.toDigits 16 n)

def piecesText (pieces : List Nat) : String := ":".intercalate (pieces.map hex)

/-- The pieces, with two colons for the longest run of at least two zeros. -/
def text (pieces : List Nat) : String :=
  let (start, count) := longestZeros 0 pieces
  if count < 2 then piecesText pieces
  else piecesText (pieces.take start) ++ "::" ++ piecesText (pieces.drop (start + count))

end ApiCli.Ipv6

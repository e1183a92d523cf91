import ApiCli.Text.Digits
import ApiCli.Text.Split

/-! # Addresses of 32 bits

A host whose last part is a number is an address: up to four numbers with dots between them, of
which the last fills the octets that the others leave. Numbers may be octal or hexadecimal. -/

namespace ApiCli.Ipv4

/-- The number of a part. A part that begins with `0x` is hexadecimal, and another one that
begins with a zero is octal. -/
def number? : List Char → Option Nat
  | [] => none
  | '0' :: 'x' :: rest | '0' :: 'X' :: rest => Text.digits? 16 rest
  | '0' :: c :: rest => Text.digits? 8 (c :: rest)
  | part => Text.digits? 10 part

/-- The parts between the dots, without an empty last one. -/
def parts (s : List Char) : List (List Char) :=
  let parts := Text.splitChars '.' s
  if parts.getLast? = some [] then parts.dropLast else parts

/-- Whether a host has to be an address. -/
def endsInNumber (s : List Char) : Bool :=
  match (parts s).getLast? with
  | none => false
  | some last => (!last.isEmpty && last.all Char.isDigit) || (number? last).isSome

/-- The address of a list of numbers. -/
def ofNumbers? (numbers : List Nat) : Option Nat :=
  match numbers.reverse with
  | [] => none
  | last :: before =>
    if before.length ≤ 3 && before.all (· < 256) && last < Nat.pow 256 (4 - before.length) then
      some (before.reverse.zipIdx.foldl (fun n d => n + d.1 * Nat.pow 256 (3 - d.2)) last)
    else none

def parse? (s : List Char) : Option Nat := ((parts s).mapM number?).bind ofNumbers?

/-- Four decimal numbers with dots between them. -/
def text (address : Nat) : String :=
  ".".intercalate
    ([16777216, 65536, 256, 1].map fun unit => toString (address / unit % 256))

end ApiCli.Ipv4

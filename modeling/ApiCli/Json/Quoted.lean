import ApiCli.Text.Digits

/-! # Strings in JSON texts

A string stands between quotes, with some characters escaped.

* `escape` is how a character is written: quotes, backslashes and controls below the blank are
  escaped and nothing else is. `quoted` writes a string.
* `unescape?` reads what stands between the quotes. The escape of a surrogate must be one of a
  pair. -/

namespace ApiCli.Json

/-! ## Writing -/

/-- How a character stands inside a string. -/
def escape (c : Char) : List Char :=
  if c = '"' then ['\\', '"']
  else if c = '\\' then ['\\', '\\']
  else if c = '\x08' then ['\\', 'b']
  else if c = '\x0c' then ['\\', 'f']
  else if c = '\n' then ['\\', 'n']
  else if c = '\r' then ['\\', 'r']
  else if c = '\t' then ['\\', 't']
  else if c < ' ' then
    ['\\', 'u', '0', '0', Text.lowerHexDigit (c.toNat / 16), Text.lowerHexDigit (c.toNat % 16)]
  else [c]

def quoted (s : String) : List Char := '"' :: (s.toList.flatMap escape ++ ['"'])

/-! ## Reading -/

/-- The character that a two-character escape stands for. -/
def unescapeChar? (c : Char) : Option Char :=
  if c = '"' ∨ c = '\\' ∨ c = '/' then some c
  else if c = 'b' then some '\x08'
  else if c = 'f' then some '\x0c'
  else if c = 'n' then some '\n'
  else if c = 'r' then some '\r'
  else if c = 't' then some '\t'
  else none

/-- Whether a code unit is the first half of a surrogate pair. -/
def isHighSurrogate (n : Nat) : Bool := 0xD800 ≤ n && n ≤ 0xDBFF

/-- Whether a code unit is the second half of a surrogate pair. -/
def isLowSurrogate (n : Nat) : Bool := 0xDC00 ≤ n && n ≤ 0xDFFF

def surrogatePair (high low : Nat) : Char :=
  Char.ofNat (0x10000 + (high - 0xD800) * 0x400 + (low - 0xDC00))

/-- What a text between quotes stands for. -/
def unescape? : List Char → Option (List Char)
  | [] => some []
  | '\\' :: 'u' :: a :: b :: c :: d :: rest =>
    match Text.digits? 16 [a, b, c, d] with
    | none => none
    | some n =>
      if isHighSurrogate n then
        match rest with
        | '\\' :: 'u' :: a :: b :: c :: d :: rest =>
          match Text.digits? 16 [a, b, c, d] with
          | none => none
          | some m =>
            if isLowSurrogate m then (unescape? rest).map (surrogatePair n m :: ·) else none
        | _ => none
      else if isLowSurrogate n then none
      else (unescape? rest).map (Char.ofNat n :: ·)
  | ['\\'] => none
  | '\\' :: c :: rest =>
    match unescapeChar? c with
    | none => none
    | some c => (unescape? rest).map (c :: ·)
  | c :: rest => (unescape? rest).map (c :: ·)

end ApiCli.Json

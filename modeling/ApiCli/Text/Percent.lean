import ApiCli.Text.Digits

/-! # Percent encoding

An octet is written as a percent sign and two upper-case hexadecimal digits. `encode` writes the
octets of those characters that a predicate picks, `decode` reads every written octet back.
`encodeComponent` leaves only the unreserved characters as they are, so its result can stand
anywhere in a path. -/

namespace ApiCli.Percent

def encodeByte (b : UInt8) : List Char :=
  ['%', Text.upperHexDigit (b.toNat / 16), Text.upperHexDigit (b.toNat % 16)]

/-- The written form of a character's octets. -/
def encodeChar (c : Char) : List Char := (String.utf8EncodeChar c).flatMap encodeByte

/-- The text with every character that `picks` chooses in its written form. -/
def encode (picks : Char → Bool) (text : List Char) : List Char :=
  text.flatMap fun c => if picks c then encodeChar c else [c]

def isUnreserved (c : Char) : Bool :=
  c.isAlphanum || c = '-' || c = '_' || c = '.' || c = '~'

/-- The text with everything but unreserved characters encoded. -/
def encodeComponent (s : String) : String :=
  String.ofList (encode (fun c => !isUnreserved c) s.toList)

/-- The value of the octet of a hexadecimal digit. -/
def hexValue? (b : UInt8) : Option Nat := Text.hexDigit? (Char.ofNat b.toNat)

/-- The octet that a percent sign and two more octets write. -/
def escaped? (b c d : UInt8) : Option UInt8 :=
  if b = 37 then do return UInt8.ofNat ((← hexValue? c) * 16 + (← hexValue? d)) else none

/-- Read written octets back; a percent sign without two digits stays. -/
def decode : List UInt8 → List UInt8
  | b :: c :: d :: rest =>
    match escaped? b c d with
    | some e => e :: decode rest
    | none => b :: decode (c :: d :: rest)
  | short => short

end ApiCli.Percent

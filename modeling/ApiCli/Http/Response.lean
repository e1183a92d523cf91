import ApiCli.Text.Utf8

/-! # Responses

A response is a status and a body that has not been read. Reading it either gives all its
octets or fails with the message of the failure. -/

namespace ApiCli

/-- An unread body: its octets, and the failure that follows them, if one does. -/
structure Body where
  octets : List UInt8
  failure : Option String
  deriving DecidableEq, Repr

def Body.bytes (b : Body) : Except String (List UInt8) :=
  match b.failure with
  | some message => .error message
  | none => .ok b.octets

/-- The text of a body, with U+FFFD in place of what is not UTF-8. -/
def Body.text (b : Body) : Except String String :=
  b.bytes.map fun octets => String.ofList (Utf8.decodeLossy octets)

structure Response where
  status : Nat
  body : Body
  deriving DecidableEq, Repr

end ApiCli

import ApiCli.Dict
import ApiCli.Text.Utf8

/-! # Header fields

A request's header fields are a dictionary from lower-case names to values: a name is held
once, whatever the letter case it is given in, and a later value replaces an earlier one.

`Headers.put?` refuses a name that is no token and a value with a control character. -/

namespace ApiCli

/-- Header fields under their lower-case names. -/
abbrev Headers := Dict String

namespace Headers

def isNameChar (c : Char) : Bool :=
  c.isAlphanum || ['!', '#', '$', '%', '&', '\'', '*', '+', '-', '.', '^', '_', '\x60', '|',
    '~'].contains c

/-- The longest name of a field, in octets. -/
def nameLimit : Nat := 65535

/-- The form under which a name is held, if it is one. -/
def name? (s : String) : Option String :=
  let chars := s.toList
  if chars.isEmpty || nameLimit < chars.length || !chars.all isNameChar then none
  else some (String.ofList (chars.map Char.toLower))

/-- Whether a value is free of control characters other than the tab. -/
def isValue (s : String) : Bool :=
  s.toList.all fun c => (' ' ≤ c && c ≠ '\x7f') || c = '\t'

/-- Add a field, or replace the one of the same name. -/
def put? (h : Headers) (name value : String) : Option Headers :=
  match name? name with
  | some name => if isValue value then some (h.insert name value) else none
  | none => none

/-- The fields that say what is sent and what is wanted. -/
def standard (accept : String) : Headers :=
  (Dict.empty.insert "content-type" "application/json").insert "accept" accept

end Headers
end ApiCli

import ApiCli.Dict

/-! # JSON values

A value as a document writes it: a number keeps its text and an object its members in the
order written, repetitions included.

* `canonical` orders the members of every object by key and keeps the last of equal ones.
  Two texts mean the same when their canonical values are equal; all operations on documents
  work on canonical values.
* `Canonical` is the property of being such a value. -/

namespace ApiCli

inductive Json where
  | null
  | bool (value : Bool)
  /-- A number, by its text. -/
  | number (text : String)
  | string (value : String)
  | array (items : List Json)
  | object (members : List (String × Json))
  deriving Repr, Inhabited

namespace Json

mutual

/-- Members in key order everywhere, the last of equal keys kept. -/
def canonical : Json → Json
  | array items => array (canonicalItems items)
  | object members => object (Dict.ofList (canonicalMembers members)).entries
  | null => null
  | bool b => bool b
  | number text => number text
  | string s => string s

def canonicalItems : List Json → List Json
  | [] => []
  | item :: rest => canonical item :: canonicalItems rest

def canonicalMembers : List (String × Json) → List (String × Json)
  | [] => []
  | (key, value) :: rest => (key, canonical value) :: canonicalMembers rest

end

mutual

/-- Every object lists its members in strictly increasing key order. -/
def Canonical : Json → Prop
  | array items => CanonicalItems items
  | object members => KeysIncrease members ∧ CanonicalMembers members
  | null | bool _ | number _ | string _ => True

def CanonicalItems : List Json → Prop
  | [] => True
  | item :: rest => Canonical item ∧ CanonicalItems rest

def CanonicalMembers : List (String × Json) → Prop
  | [] => True
  | (_, value) :: rest => Canonical value ∧ CanonicalMembers rest

end

def member? (key : String) : Json → Option Json
  | object members => Dict.find key members
  | _ => none

end Json
end ApiCli

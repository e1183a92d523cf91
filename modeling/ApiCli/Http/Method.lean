/-! # Request methods

The seven methods that a document may define for a path, in the order in which commands are
generated. -/

namespace ApiCli

inductive Method where
  | get
  | put
  | post
  | delete
  | options
  | head
  | patch
  deriving DecidableEq, Repr

namespace Method

/-- All methods, in the order of generation. -/
def all : List Method := [get, put, post, delete, options, head, patch]

/-- The lower-case name, as a document writes it. -/
def lowerName : Method → String
  | get => "get"
  | put => "put"
  | post => "post"
  | delete => "delete"
  | options => "options"
  | head => "head"
  | patch => "patch"

def name : Method → String
  | get => "GET"
  | put => "PUT"
  | post => "POST"
  | delete => "DELETE"
  | options => "OPTIONS"
  | head => "HEAD"
  | patch => "PATCH"

def asciiLower (s : String) : String := String.ofList (s.toList.map Char.toLower)

/-- The method of a name in any letter case. -/
def ofName? (s : String) : Option Method := all.find? fun m => m.lowerName = asciiLower s

@[simp] theorem ofName?_lowerName (m : Method) : ofName? m.lowerName = some m := by
  cases m <;> decide

end Method
end ApiCli

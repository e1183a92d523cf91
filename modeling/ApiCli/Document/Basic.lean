import ApiCli.Json.Basic
import ApiCli.Http.Method

/-! # Documents

What a swagger document says about an API, as far as commands are made from it.

* `Parameter` is a declared parameter or a reference to a shared one; `Operation` is one method
  of one path; `PathItem` is everything under one path.
* `CommandEntry` is a command that the document declares by itself.
* `Document` holds all of them under their names, in name order. -/

namespace ApiCli

/-- Where a parameter travels in a request. -/
inductive Location where
  | path
  | query
  | header
  | body
  | formData
  /-- Any other place; no request has one. -/
  | other
  deriving DecidableEq, Repr

namespace Location

/-- Parameters in the body cannot be given as flags. -/
def isBody : Location → Bool
  | body | formData => true
  | _ => false

def ofName : String → Location
  | "path" => path
  | "query" => query
  | "header" => header
  | "body" => body
  | "formData" => formData
  | _ => other

def name : Location → String
  | path => "path"
  | query => "query"
  | header => "header"
  | body => "body"
  | formData => "formData"
  | other => "other"

end Location

/-- What an array parameter says about its elements. -/
structure Items where
  type : Option String
  deriving DecidableEq, Repr

/-- A declared parameter, or a reference to a shared one. -/
structure Parameter where
  /-- The shared parameter that stands here, as `#/parameters/<name>`. -/
  reference : Option String
  name : String
  location : Location
  type : Option String
  items : Option Items
  required : Bool
  default : Option Json
  description : Option String
  /-- The short alias wanted for the flag. -/
  short : Option String
  /-- The environment variable that can supply the value. -/
  env : Option String

def Parameter.empty : Parameter :=
  ⟨none, "", .other, none, none, false, none, none, none, none⟩

structure Operation where
  /-- The command's name, present when the operation is to be a command. An empty name stands
  for the operation's identifier. -/
  command : Option String
  aliases : List String
  isDefault : Bool
  identifier : Option String
  summary : Option String
  description : Option String
  parameters : List Parameter

def Operation.empty : Operation := ⟨none, [], false, none, none, none, []⟩

structure PathItem where
  /-- Parameters shared by all methods of the path. -/
  parameters : List Parameter
  /-- The defined operations. -/
  operation? : Method → Option Operation

namespace PathItem

def empty : PathItem := ⟨[], fun _ => none⟩

/-- The defined operations, in the order of the methods. -/
def operations (p : PathItem) : List (Method × Operation) :=
  Method.all.filterMap fun m => (p.operation? m).map fun op => (m, op)

/-- The path with one operation set or removed. -/
def setOperation (p : PathItem) (m : Method) (op : Option Operation) : PathItem :=
  { p with operation? := fun m' => if m' = m then op else p.operation? m' }

end PathItem

/-- A command that the document declares by itself. -/
structure CommandEntry where
  method : Option String
  path : Option String
  aliases : List String
  isDefault : Bool
  deriving DecidableEq, Repr

def CommandEntry.empty : CommandEntry := ⟨none, none, [], false⟩

structure Document where
  paths : Dict PathItem
  /-- The shared parameters. -/
  parameters : Dict Parameter
  commands : Dict CommandEntry

def Document.empty : Document := ⟨∅, ∅, ∅⟩

end ApiCli

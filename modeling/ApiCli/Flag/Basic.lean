import ApiCli.Document.Basic

/-! # Flags

A flag is a parameter as the command line offers it: under a kebab-case name, with a type and
with the default that the document or the environment gives it. -/

namespace ApiCli

abbrev Environment := String → Option String

inductive Scalar where
  | string
  | integer
  | boolean
  deriving DecidableEq, Repr

namespace Scalar

/-- The type that a document names. Numbers are passed on as written. -/
def ofName? : String → Option Scalar
  | "string" | "number" => some string
  | "integer" => some integer
  | "boolean" => some boolean
  | _ => none

def name : Scalar → String
  | string => "string"
  | integer => "integer"
  | boolean => "boolean"

end Scalar

inductive FlagType where
  | single (scalar : Scalar)
  /-- Any number of values. -/
  | array (scalar : Scalar)
  deriving DecidableEq, Repr

namespace FlagType

/-- The type that a parameter declares, if it is a supported one. -/
def ofParameter? (p : Parameter) : Option FlagType :=
  match p.type with
  | none => none
  | some "array" => ((p.items.bind (·.type)).bind Scalar.ofName?).map array
  | some name => (Scalar.ofName? name).map single

def scalar : FlagType → Scalar
  | single t | array t => t

def isArray : FlagType → Bool
  | single _ => false
  | array _ => true

def name : FlagType → String
  | single t => t.name
  | array t => "array." ++ t.name

end FlagType

/-- A parameter compiled for the command line. -/
structure Flag where
  name : String
  /-- The parameter's name as the document writes it, which is its name in requests. -/
  paramName : String
  short : Option Char
  description : String
  type : FlagType
  location : Location
  /-- Declared as required, and not supplied by the environment. -/
  required : Bool
  default : Option String
  /-- The parameter names an environment variable. -/
  fromEnv : Bool
  /-- The default is the non-empty value of that variable. -/
  envSupplied : Bool
  deriving DecidableEq, Repr

namespace Flag

/-- Whether the command line has to give the flag. A path parameter never has to be given: a
missing one shows in the path that is left unbound. -/
def cliRequired (f : Flag) : Bool := f.required && f.location ≠ .path

/-- The prefix of references to shared parameters. -/
def referencePrefix : String := "#/parameters/"

/-- The reference to the shared parameter of a name. -/
def reference (name : String) : String := referencePrefix ++ name

end Flag

/-- The shared parameters under their references. A parameter that exists but is no flag is
held as `none`. -/
abbrev Registry := Dict (Option Flag)

namespace Registry

def empty : Registry := Dict.empty

/-- Hold what a shared parameter compiled to. -/
def add (r : Registry) (name : String) (flag : Option Flag) : Registry :=
  r.insert (Flag.reference name) flag

/-- What a reference stands for; the outer `none` says that nothing is held under it. -/
def resolve (r : Registry) (reference : String) : Option (Option Flag) := r.get? reference

end Registry
end ApiCli

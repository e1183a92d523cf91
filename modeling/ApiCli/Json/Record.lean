import ApiCli.Json.Basic
import ApiCli.Log

/-! # Decoding records

How JSON values become records of a fixed shape.

* `Decode α` is a decoding step: it may note events, and it may fail.
* A record is described by its list of `RecordField`s. `record` reads it from an object, member by
  member in the order of the object, or from an array, item by item in the order of the fields.
  Members without a field are passed over; a field that occurs twice is a failure, as is an
  array with too many items or one that ends before a field that has to be there. -/

namespace ApiCli.Json

/-- Why a value could not be decoded. -/
inductive DecodeError where
  /-- Some value has the wrong shape. -/
  | shape
  /-- The entry `name` of the command map could not be decoded. -/
  | entry (name : String)
  deriving DecidableEq, Repr

/-- A decoding step. -/
abbrev Decode (α : Type) := ExceptT DecodeError Logged α

namespace Decode

/-- The failure of a value of the wrong shape. -/
def fail : Decode α := throw .shape

def note (e : Event) : Decode Unit := ExceptT.lift (Logged.note e)

def string : Json → Decode String
  | .string s => pure s
  | _ => fail

def bool : Json → Decode Bool
  | .bool b => pure b
  | _ => fail

def optional (decode : Json → Decode α) : Json → Decode (Option α)
  | .null => pure none
  | j => some <$> decode j

def list (decode : Json → Decode α) : Json → Decode (List α)
  | .array items => items.mapM decode
  | _ => fail

def dict (decode : Json → Decode α) : Json → Decode (Dict α)
  | .object members =>
    members.foldlM (fun d m => return d.insert m.1 (← decode m.2)) Dict.empty
  | _ => fail

/-- A value of any shape. `free` is what becomes of it. -/
def any (free : Json → Option Json) (j : Json) : Decode Json :=
  match free j with
  | some j => pure j
  | none => fail

/-- The value that `read?` finds, or `default` with a note when it finds none. -/
def lenient (free : Json → Option Json) (read? : Json → Option α) (default : α) (j : Json) :
    Decode α := do
  match read? (← any free j) with
  | some a => pure a
  | none =>
    note .malformedExtension
    return default

end Decode

def asOptionalString? : Json → Option (Option String)
  | null => some none
  | string s => some (some s)
  | _ => none

def asString? : Json → Option String
  | string s => some s
  | _ => none

def asStrings? : Json → Option (List String)
  | array items => items.mapM asString?
  | _ => none

def asBool? : Json → Option Bool
  | bool b => some b
  | _ => none

/-- One field of a record of type `α`. -/
structure RecordField (α : Type) where
  /-- The key of the field's member. -/
  key : String
  /-- Whether a record written as an array may end before the field. -/
  mayBeMissing : Bool
  /-- The record with the field's value filled in. -/
  fill : α → Json → Decode α

/-- A record's fields from the members of an object; `seen` are the keys filled already. -/
def fromMembers (fields : List (RecordField α)) (seen : List String) (record : α) :
    List (String × Json) → Decode α
  | [] => pure record
  | (key, value) :: rest =>
    match fields.find? fun f => f.key = key with
    | none => fromMembers fields seen record rest
    | some field =>
      if seen.contains key then Decode.fail
      else do fromMembers fields (key :: seen) (← field.fill record value) rest

/-- A record's fields from the items of an array. -/
def fromItems (record : α) : List (RecordField α) → List Json → Decode α
  | [], [] => pure record
  | [], _ :: _ => Decode.fail
  | field :: fields, [] =>
    if field.mayBeMissing then fromItems record fields [] else Decode.fail
  | field :: fields, item :: rest => do fromItems (← field.fill record item) fields rest

/-- A record over the values that its missing fields have. -/
def record (fields : List (RecordField α)) (empty : α) : Json → Decode α
  | object members => fromMembers fields [] empty members
  | array items => fromItems empty fields items
  | _ => Decode.fail

end ApiCli.Json

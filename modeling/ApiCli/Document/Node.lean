import ApiCli.Document.Decode
import ApiCli.Json.Reader

/-! # Parameters in texts

A parameter can be decoded from a text of its own, member by member as the text is read. What is
noted on the way stays noted when a fault comes later.

Members that are no fields are passed over without a look at what they hold, so that they may nest
to any depth and their strings may have halves of surrogate pairs. -/

namespace ApiCli

open Json

/-- The members with some keys, which may repeat. -/
def Json.Written.membersAt? (keys : List String) :
    List (List Char × Written) → Option (List (String × Json))
  | [] => some []
  | (key, value) :: rest =>
    match unquote? key with
    | none => none
    | some key =>
      if keys.contains key then
        match value.value? with
        | none => none
        | some value => (membersAt? keys rest).map ((key, value) :: ·)
      else membersAt? keys rest

namespace Parameter.Node

/-- The value of a field. The elements of an array are described by a record, and a location can
be written as an object. -/
def fieldValue? (key : String) (w : Written) : Option Json :=
  match key, w with
  | "items", .object members =>
    (Written.membersAt? (Items.fields.map (·.key)) members).map .object
  | "in", .object [(name, .null)] => (unquote? name).map fun name => .object [(name, .null)]
  | _, w => w.valueWithin? (depthLimit - 1)

/-- The members of a parameter's fields, up to the first with a fault, and whether there is
none. -/
def members (keys : List String) : List (List Char × Written) → List (String × Json) × Bool
  | [] => ([], true)
  | (key, value) :: rest =>
    match unquote? key with
    | none => ([], false)
    | some key =>
      if keys.contains key then
        match fieldValue? key value with
        | none => ([], false)
        | some value =>
          let (more, whole) := members keys rest
          ((key, value) :: more, whole)
      else members keys rest

/-- The values of a parameter's fields in their order, up to the first with a fault, and whether
there is none. -/
def items : List String → List Written → List Json × Bool
  | key :: keys, value :: rest =>
    match fieldValue? key value with
    | none => ([], false)
    | some value =>
      let (more, whole) := items keys rest
      (value :: more, whole)
  | _, rest => ([], rest.isEmpty)

/-- The part of a text that can be decoded, and whether it is the whole text. -/
def ofText (text : List Char) : Json × Bool :=
  let keys := (fields some).map (·.key)
  let reading := read text
  match reading.written? with
  | some (.object written) =>
    let (decodable, whole) := members keys written
    (.object decodable, whole && reading.isWhole)
  | some (.array written) =>
    let (decodable, whole) := items keys written
    (.array decodable, whole && reading.isWhole)
  | _ => (.null, false)

end Parameter.Node

def Parameter.decodeText (text : String) : Decode Parameter := do
  let (node, whole) := Node.ofText text.toList
  let parameter ← record (fields fun j => some j.canonical) empty node
  if whole then return parameter else Decode.fail

end ApiCli

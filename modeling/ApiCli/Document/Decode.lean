import ApiCli.Document.Basic
import ApiCli.Json.Number
import ApiCli.Json.Record

/-! # Decoding documents

The records of a document and their keys, each list of fields in the order in which the record
may also be written as an array.

The extensions whose keys begin with `x-swagger-cmd`, and `alias` and `default` of a command
entry, are read leniently: a value of the wrong shape counts as absent and is noted.

Where a value of any shape can stand, that value is decoded once more by `reread?`. -/

namespace ApiCli

open Json Decode

/-- A location is the name of one, or an object whose single member has that name as its key and
`null` as its value. -/
def Location.decode : Json → Decode Location
  | .string s => pure (ofName s)
  | .object [(s, .null)] => pure (ofName s)
  | _ => fail

namespace Items

def fields : List (RecordField Items) :=
  [⟨"type", false, fun _ j => return ⟨← optional string j⟩⟩]

def decode : Json → Decode Items := record fields ⟨none⟩

end Items

namespace Parameter

/-- The fields of a parameter whose values of any shape become what `free` makes of them. -/
def fields (free : Json → Option Json) : List (RecordField Parameter) :=
  [⟨"$ref", false, fun r j => return { r with reference := ← optional string j }⟩,
   ⟨"name", true, fun r j => return { r with name := ← string j }⟩,
   ⟨"in", true, fun r j => return { r with location := ← Location.decode j }⟩,
   ⟨"type", false, fun r j => return { r with type := ← optional string j }⟩,
   ⟨"items", false, fun r j => return { r with items := ← optional Items.decode j }⟩,
   ⟨"required", true, fun r j => return { r with required := ← bool j }⟩,
   ⟨"default", false, fun r j => return { r with default := ← optional (any free) j }⟩,
   ⟨"description", false, fun r j => return { r with description := ← optional string j }⟩,
   ⟨"x-swagger-cmd-short", true, fun r j =>
      return { r with short := ← lenient free asOptionalString? none j }⟩,
   ⟨"x-swagger-cmd-env", true, fun r j =>
      return { r with env := ← lenient free asOptionalString? none j }⟩]

def decode : Json → Decode Parameter := record (fields reread?) empty

end Parameter

namespace Operation

def fields : List (RecordField Operation) :=
  [⟨"x-swagger-cmd", true, fun r j =>
      return { r with command := ← lenient reread? asOptionalString? none j }⟩,
   ⟨"x-swagger-cmd-alias", true, fun r j =>
      return { r with aliases := ← lenient reread? asStrings? [] j }⟩,
   ⟨"x-swagger-cmd-default", true, fun r j =>
      return { r with isDefault := ← lenient reread? asBool? false j }⟩,
   ⟨"operationId", false, fun r j => return { r with identifier := ← optional string j }⟩,
   ⟨"summary", false, fun r j => return { r with summary := ← optional string j }⟩,
   ⟨"description", false, fun r j => return { r with description := ← optional string j }⟩,
   ⟨"parameters", true, fun r j =>
      return { r with parameters := ← list Parameter.decode j }⟩]

def decode : Json → Decode Operation := record fields empty

end Operation

namespace PathItem

def fields : List (RecordField PathItem) :=
  ⟨"parameters", true, fun r j => return { r with parameters := ← list Parameter.decode j }⟩ ::
  Method.all.map fun m =>
    ⟨m.lowerName, false, fun r j =>
      return r.setOperation m (← optional Operation.decode j)⟩

def decode : Json → Decode PathItem := record fields empty

end PathItem

namespace CommandEntry

def fields : List (RecordField CommandEntry) :=
  [⟨"method", false, fun r j => return { r with method := ← optional string j }⟩,
   ⟨"path", false, fun r j => return { r with path := ← optional string j }⟩,
   ⟨"alias", true, fun r j => return { r with aliases := ← lenient reread? asStrings? [] j }⟩,
   ⟨"default", true, fun r j => return { r with isDefault := ← lenient reread? asBool? false j }⟩]

def decode : Json → Decode CommandEntry := record fields empty

/-- The entries of a command map, without its arrays, which only group commands. -/
def decodeMembers (members : List (String × Json)) : Decode (Dict CommandEntry) :=
  members.foldlM
    (fun d m =>
      match m.2 with
      | .array _ => pure d
      | j => do
        let entry ← ExceptT.adapt (fun _ => DecodeError.entry m.1) (decode j)
        return d.insert m.1 entry)
    Dict.empty

/-- A command map. All of it is decoded before its first entry. -/
def decodeMap : Json → Decode (Dict CommandEntry)
  | .object members =>
    match rereadMembers? members with
    | some members => decodeMembers members
    | none => fail
  | _ => fail

end CommandEntry

namespace Document

def fields : List (RecordField Document) :=
  [⟨"paths", true, fun r j => return { r with paths := ← dict PathItem.decode j }⟩,
   ⟨"parameters", true, fun r j => return { r with parameters := ← dict Parameter.decode j }⟩,
   ⟨"x-swagger-cmds", true, fun r j =>
      return { r with commands := ← CommandEntry.decodeMap j }⟩]

/-- A document whose override is resolved. -/
def decode : Json → Decode Document := record fields empty

end Document
end ApiCli

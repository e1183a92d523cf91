import ApiCli.Document.Load
import ApiCli.Session

/-! # Recorded replies

A recording stands for a remote: a text with one JSON object a line, each of which is the reply
to one request, as in `{"status": 200, "body": "[]"}` or `{"failure": "connection refused"}`.
Lines that are not such objects are passed over. -/

namespace ApiCli

structure RecordedReply where
  status : Nat
  body : String
  failure : Option String
  deriving DecidableEq, Repr

namespace RecordedReply

/-- The reply of a line that says nothing. -/
def empty : RecordedReply := ⟨200, "", none⟩

def decodeStatus : Json → Json.Decode Nat
  | .number text =>
    match text.toNat? with
    | some n => pure n
    | none => Json.Decode.fail
  | _ => Json.Decode.fail

def fields : List (Json.RecordField RecordedReply) :=
  [⟨"status", true, fun r j => return { r with status := ← decodeStatus j }⟩,
   ⟨"body", true, fun r j => return { r with body := ← Json.Decode.string j }⟩,
   ⟨"failure", true, fun r j =>
      return { r with failure := ← Json.Decode.optional Json.Decode.string j }⟩]

def ofLine? (line : String) : Option RecordedReply :=
  (Json.parse? line.toList).bind fun j =>
    match (Json.record fields empty j).run.value with
    | .ok r => some r
    | .error _ => none

def reply (r : RecordedReply) : Reply :=
  { cancels := false
    outcome := match r.failure with
      | some message => .error (.io message)
      | none => .ok ⟨r.status, ⟨Utf8.encode r.body.toList, none⟩⟩ }

end RecordedReply

/-- The variables that the parameters of a document refer to. -/
def Document.variables (d : Document) : List String :=
  let ofParameters := fun (ps : List Parameter) => ps.filterMap (·.env)
  ofParameters d.parameters.values ++
    d.paths.values.flatMap fun item =>
      ofParameters item.parameters ++
        item.operations.flatMap fun op => ofParameters op.2.parameters

/-- The variables that the document in a reply refers to, if there is one. -/
def RecordedReply.variables (r : RecordedReply) : List String :=
  match (Document.load r.body).run.value with
  | .ok d => d.variables
  | .error _ => []

end ApiCli

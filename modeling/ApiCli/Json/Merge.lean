import ApiCli.Json.Reader
import ApiCli.Json.Printer

/-! # Merging JSON values

A patch is laid over a base. The patch wins every conflict it can express:

* two objects merge member by member, and members that only the patch has are added;
* an object patches an array item by item, under the decimal indices of the items; an array
  keeps its length;
* an object stays when the patch holds something else in its place, and any other value is
  replaced.

`merge` works on values, `mergeBytes` on encoded ones. -/

namespace ApiCli.Json

/-- The patch's members that the base lacks, inserted among the merged ones. -/
def addMissing (fields merged : List (String × Json)) : List (String × Json) :=
  fields.foldl
    (fun merged field =>
      if (Dict.find field.1 merged).isSome then merged
      else Dict.insertEntry field.1 field.2 merged)
    merged

mutual

/-- What the merged document holds in a place: `patch` is the patch's value for it, if it has
one, and the argument the base's. -/
def mergeAt (patch : Option Json) : Json → Json
  | array items =>
    match patch with
    | some (object fields) => array (mergeItems fields 0 items)
    | some other => other
    | none => array items
  | object members =>
    match patch with
    | some (object fields) => object (addMissing fields (mergeMembers fields members))
    | _ => object members
  | base => patch.getD base

/-- Items patched under their indices, the first of which is `index`. -/
def mergeItems (fields : List (String × Json)) (index : Nat) : List Json → List Json
  | [] => []
  | item :: rest =>
    mergeAt (Dict.find (toString index) fields) item :: mergeItems fields (index + 1) rest

def mergeMembers (fields : List (String × Json)) :
    List (String × Json) → List (String × Json)
  | [] => []
  | (key, value) :: rest =>
    (key, mergeAt (Dict.find key fields) value) :: mergeMembers fields rest

end

/-- `patch` over `base`. A patch that is no object leaves the base as it is, and so does every
patch of a base without parts. -/
def merge (base patch : Json) : Json :=
  match base, patch with
  | array _, object _ | object _, object _ => mergeAt (some patch) base
  | _, _ => base

/-- Which of two encoded documents is not JSON. -/
inductive MergeError where
  | base
  | patch
  deriving DecidableEq, Repr

def MergeError.message : MergeError → String
  | base => "error in data JSON"
  | patch => "error in patch JSON"

/-- Decode both documents, merge them and write the result. A faulty base is reported before a
faulty patch. -/
def mergeBytes (base patch : List UInt8) : Except MergeError (List UInt8) :=
  match parseBytes? base with
  | none => .error .base
  | some base =>
    match parseBytes? patch with
    | none => .error .patch
    | some patch => .ok (Utf8.encode (merge base patch).write)

end ApiCli.Json

import ApiCli.Json.Merge

/-! # Override fragments

A document may carry a fragment under `x-swagger-override` that is shaped like the document.
The fragment is taken out and merged over the rest before anything else reads the document. -/

namespace ApiCli.Document

open Json

/-- The top-level key of the fragment. -/
def overrideKey : String := "x-swagger-override"

/-- The document without its fragment, and the fragment merged over it. -/
def resolveOverride (document : Json) : Json :=
  match document with
  | .object members =>
    match Dict.find overrideKey members with
    | some fragment =>
      merge (.object (members.filter fun m => m.1 ≠ overrideKey)) fragment
    | none => document
  | _ => document

/-- Resolve the override in a document's text. A text without one is returned as it is, and
`none` means that the text is not JSON. -/
def resolveOverrideText (text : String) : Option String :=
  (parse? text.toList).map fun document =>
    match document.member? overrideKey with
    | some _ => (resolveOverride document).text
    | none => text

end ApiCli.Document

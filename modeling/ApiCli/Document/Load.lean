import ApiCli.Document.Decode
import ApiCli.Document.Override

/-! # Loading documents

A document's text is parsed, its override resolved, and the result decoded. -/

namespace ApiCli

inductive LoadError where
  /-- The text is not JSON. -/
  | notJson
  /-- The value is not shaped like a document. -/
  | malformed (cause : Json.DecodeError)
  deriving DecidableEq, Repr

namespace LoadError

def message : LoadError → String
  | notJson => "failed to apply x-swagger-override"
  | malformed _ => "invalid swagger document"

/-- The text of an error and of its causes. -/
def chain (e : LoadError) : List String :=
  match e with
  | notJson => [e.message, Json.MergeError.base.message]
  | malformed _ => [e.message]

end LoadError

def Document.load (text : String) : ExceptT LoadError Logged Document :=
  match Json.parse? text.toList with
  | none => throw .notJson
  | some j => ExceptT.adapt LoadError.malformed (decode (resolveOverride j))

end ApiCli

/-! # Endpoints

A base URL and a path are joined with exactly one slash between them: the base loses its
trailing slashes, and a path that is not empty gets a leading one. -/

namespace ApiCli

/-- The text without the slashes at its end. -/
def dropTrailingSlashes (s : List Char) : List Char :=
  (s.reverse.dropWhile fun c => c = '/').reverse

/-- The URL of a path on the remote. -/
def endpoint (base path : String) : String :=
  let base := String.ofList (dropTrailingSlashes base.toList)
  match path.toList with
  | [] => base
  | '/' :: _ => base ++ path
  | _ => base ++ "/" ++ path

end ApiCli

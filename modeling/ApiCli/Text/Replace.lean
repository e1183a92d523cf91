/-! # Replacing text

`replace` puts a text in the place of every occurrence of another, from left to right;
occurrences do not overlap, and what was put in is not looked at again. -/

namespace ApiCli.Text

/-- Replace in what comes after `skip` more characters, which belong to an occurrence already
replaced. -/
def replaceAfter (pattern replacement : List Char) : Nat → List Char → List Char
  | _, [] => []
  | skip + 1, _ :: rest => replaceAfter pattern replacement skip rest
  | 0, c :: rest =>
    if pattern.isPrefixOf (c :: rest) then
      replacement ++ replaceAfter pattern replacement (pattern.length - 1) rest
    else c :: replaceAfter pattern replacement 0 rest

/-- The text with `replacement` in the place of every occurrence of the non-empty `pattern`. -/
def replace (pattern replacement text : String) : String :=
  String.ofList (replaceAfter pattern.toList replacement.toList 0 text.toList)

end ApiCli.Text

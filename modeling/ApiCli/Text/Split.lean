/-! # Splitting text

`splitOn` cuts a text at every occurrence of a character, `breakAt` at the first one. -/

namespace ApiCli.Text

/-- The parts between the occurrences of `separator`. A text without one is its own only
part. -/
def splitChars (separator : Char) : List Char → List (List Char)
  | [] => [[]]
  | c :: rest =>
    if c = separator then [] :: splitChars separator rest
    else
      match splitChars separator rest with
      | [] => [[c]]
      | part :: parts => (c :: part) :: parts

def splitOn (separator : Char) (s : String) : List String :=
  (splitChars separator s.toList).map String.ofList

/-- The text before the first occurrence of `separator`, and the text after it if there is
one. -/
def breakAt (separator : Char) : List Char → List Char × Option (List Char)
  | [] => ([], none)
  | c :: rest =>
    if c = separator then ([], some rest)
    else
      let (before, after) := breakAt separator rest
      (c :: before, after)

end ApiCli.Text

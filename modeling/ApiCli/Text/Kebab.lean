import ApiCli.Text.Lowercase
import ApiCli.Text.Uppercase

/-! # Kebab case

The spelling of a parameter's name as a flag: `podId` becomes `pod-id` and `HTTPStatus` becomes
`http-status`.

Every character is lowercased by itself. A hyphen comes before an uppercase character that
follows a lowercase character or an ASCII digit, and before one that starts a word, that is,
stands after anything but a separator and before a lowercase character. The separators `-` and
`_` stay as they are. -/

namespace ApiCli.Text

/-- The characters that already separate words. -/
def isSeparator (c : Char) : Bool := c = '-' || c = '_'

/-- Whether a hyphen comes before `c`, which stands between `before` and `after`. -/
def startsWord (before : Option Char) (c : Char) (after : Option Char) : Bool :=
  match before with
  | none => false
  | some before =>
    isUppercase c &&
      (isLowercase before || before.isDigit || (after.any isLowercase && !isSeparator before))

/-- The kebab case of the text that follows `before`. -/
def kebabAfter (before : Option Char) : List Char → List Char
  | [] => []
  | c :: rest =>
    (if startsWord before c rest.head? then ['-'] else []) ++
      (toLowercase c ++ kebabAfter (some c) rest)

def kebab (s : String) : String := String.ofList (kebabAfter none s.toList)

end ApiCli.Text

import ApiCli.Client.Tree
import ApiCli.Text.Percent
import ApiCli.Text.Replace

/-! # Binding values

How the values bound to a command's flags enter a request.

* `bindPath` puts the encoded values of path flags in the place of their placeholders, and
  fails on a placeholder that is left.
* `sendable` lists the flags of another location whose values travel: those that the caller
  supplied, and those defaulted from the environment. A default of the document never
  travels. -/

namespace ApiCli

/-- The placeholder of a parameter in a path template. -/
def placeholder (name : String) : String := "\x7b" ++ name ++ "\x7d"

/-- A path with the values of one flag put in. -/
def bindFlag (bound : Dict Bound) (path : String) (flag : Flag) : String :=
  if flag.location = .path then
    match bound.get? flag.name with
    | none => path
    | some b =>
      if b.values.isEmpty then path
      else Text.replace (placeholder flag.paramName) (Percent.encodeComponent b.joined) path
  else path

/-- The text between the first opening brace and the first closing brace after it. -/
def firstPlaceholder? (path : List Char) : Option (List Char) :=
  match path with
  | [] => none
  | c :: rest =>
    if c = '\x7b' then
      match Text.breakAt '\x7d' rest with
      | (name, some _) => some name
      | (_, none) => none
    else firstPlaceholder? rest

/-- The path of a command with the values of its flags, or the name of a placeholder that is
left. -/
def bindPath (c : Command) (bound : Dict Bound) : Except String String :=
  let path := c.flags.values.foldl (bindFlag bound) c.path
  match firstPlaceholder? path.toList with
  | some name => .error (String.ofList name)
  | none => .ok path

/-- Whether a flag's values travel outside the path. -/
def isSendable (flag : Flag) (b : Bound) : Bool :=
  b.isExplicit || (flag.envSupplied && b.joined ≠ "")

/-- The flags of a location whose values travel, in name order. -/
def sendable (c : Command) (bound : Dict Bound) (location : Location) : List (Flag × Bound) :=
  c.flags.values.filterMap fun flag =>
    if flag.location = location then
      ((bound.get? flag.name).filter (isSendable flag)).map fun b => (flag, b)
    else none

/-- The query pairs of a command, under the names of the parameters. -/
def bindQuery (c : Command) (bound : Dict Bound) : List (String × String) :=
  (sendable c bound .query).map fun s => (s.1.paramName, s.2.joined)

end ApiCli

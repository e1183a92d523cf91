import ApiCli.Client.Config
import ApiCli.Command.Basic

/-! # The generated command line

`Config.commandTree` offers every command of a set as a subcommand and every flag of it as an
argument. `Bound` is what the command line, the environment or the document binds to a flag, and
`boundValues` collects these for a command that was called. -/

namespace ApiCli

structure Bound where
  values : List String
  /-- Supplied by the caller rather than taken from a default. -/
  isExplicit : Bool
  deriving DecidableEq, Repr

/-- The values as they travel, with commas between them. -/
def Bound.joined (b : Bound) : String := ",".intercalate b.values

/-- The default values of a flag's argument. An argument that has to be given has none, and an
array's default is cut at its commas. -/
def Flag.argumentDefaults (f : Flag) : List String :=
  if f.cliRequired then []
  else
    match f.default with
    | none => []
    | some default =>
      if f.type.isArray then if default = "" then [] else Text.splitOn ',' default
      else [default]

def Flag.argument (f : Flag) : Argument :=
  { name := f.name
    short := f.short
    help := f.description
    required := f.cliRequired
    isGlobal := false
    type := f.type
    defaults := f.argumentDefaults
    env := none }

def Command.subcommand (c : Command) : Subcommand :=
  { name := c.name
    aliases := c.aliases
    about := c.summary
    longAbout := if c.description = "" then none else some c.description
    arguments := c.flags.values.map Flag.argument }

/-- The command line of a client for a set of commands. -/
def Config.commandTree (c : Config) (set : CommandSet) : CommandTree :=
  { name := c.name
    about := some c.about
    arguments := c.globalArguments
    subcommands := set.commands.map Command.subcommand
    offersHelp := true
    needsSubcommand := true }

/-- The values bound to the flags of a command that was called with `given`. -/
def boundValues (c : Command) (given : Dict Given) : Dict Bound :=
  c.flags.keys.foldl
    (fun bound name =>
      match given.get? name with
      | none => bound
      | some g => bound.insert name ⟨g.values, g.isExplicit⟩)
    Dict.empty

end ApiCli

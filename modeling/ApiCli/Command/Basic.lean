import ApiCli.Flag.Basic

/-! # Commands

A command is an operation of the API made executable. A `CommandSet` is everything that one
document compiles to. -/

namespace ApiCli

/-- An operation that can be run by name. -/
structure Command where
  name : String
  aliases : List String
  method : Method
  /-- The path template, with placeholders in braces. -/
  path : String
  summary : String
  description : String
  /-- The flags under their names. -/
  flags : Dict Flag
  /-- Whether the command runs when none is named. -/
  isDefault : Bool

namespace Command

def names (c : Command) : List String := c.name :: c.aliases

def isNamed (c : Command) (name : String) : Bool := c.names.contains name

end Command

structure CommandSet where
  commands : List Command
  parameters : Registry
  baseUrl : String

namespace CommandSet

/-- The first command that a name calls. -/
def find? (s : CommandSet) (name : String) : Option Command :=
  s.commands.find? fun c => c.isNamed name

/-- The command that runs when none is named. -/
def default? (s : CommandSet) : Option Command := s.commands.find? (·.isDefault)

end CommandSet
end ApiCli

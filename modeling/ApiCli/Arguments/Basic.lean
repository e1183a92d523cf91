import ApiCli.Flag.Basic

/-! # Command lines

What a command line may hold, and what is found on one.

* `Argument` is a named value that can be given as `--name`; `Subcommand` is a named list of
  arguments; `CommandTree` is a program with its global arguments and subcommands.
* `Given` is what an argument was found to be and where that came from.
* `ArgumentError` says why a command line was refused, or that help was asked for. -/

namespace ApiCli

/-- A value that the command line can give. -/
structure Argument where
  /-- The name after the two hyphens. -/
  name : String
  short : Option Char
  help : String
  required : Bool
  /-- Accepted before and after a subcommand. -/
  isGlobal : Bool
  type : FlagType
  /-- The values of an argument that is not given. -/
  defaults : List String
  /-- The environment variable that is asked when the argument is not given. -/
  env : Option String
  deriving DecidableEq, Repr

namespace Argument

/-- A switch takes a value only after an equals sign and is `true` without one. -/
def isSwitch (a : Argument) : Bool := a.type = .single .boolean

/-- Whether the argument may be given repeatedly, with several values each time. -/
def isRepeatable (a : Argument) : Bool := a.type.isArray

end Argument

/-- A named command with arguments of its own. -/
structure Subcommand where
  name : String
  aliases : List String
  about : String
  longAbout : Option String
  arguments : List Argument
  deriving DecidableEq, Repr

def Subcommand.isNamed (s : Subcommand) (word : String) : Bool :=
  s.name = word || s.aliases.contains word

structure CommandTree where
  name : String
  about : Option String
  arguments : List Argument
  subcommands : List Subcommand
  /-- Whether `--help` is accepted. -/
  offersHelp : Bool
  /-- Whether a subcommand has to be called. -/
  needsSubcommand : Bool
  deriving DecidableEq, Repr

inductive ValueSource where
  | default
  | environment
  | commandLine
  deriving DecidableEq, Repr

/-- Later sources prevail over earlier ones. -/
def ValueSource.rank : ValueSource → Nat
  | default => 0
  | environment => 1
  | commandLine => 2

structure Given where
  source : ValueSource
  values : List String
  deriving DecidableEq, Repr

/-- Why a command line was not accepted. -/
inductive ArgumentError where
  | unknownArgument
  | invalidSubcommand
  /-- An argument is given without its value. -/
  | missingValue
  /-- A value is not of the argument's type. -/
  | invalidValue
  /-- An argument that takes one value is given twice. -/
  | repeatedArgument
  | missingRequired
  | missingSubcommand
  /-- A value is given to an argument that takes none. -/
  | unexpectedValue
  /-- Help was asked for. -/
  | help
  /-- Nothing was given where something is needed, which counts as asking for help. -/
  | helpForNothing
  deriving DecidableEq, Repr

namespace ArgumentError

/-- The status with which the program ends: asking for help is no failure. -/
def exitCode : ArgumentError → Nat
  | help => 0
  | _ => 2

def message : ArgumentError → String
  | unknownArgument => "unexpected argument"
  | invalidSubcommand => "unrecognized subcommand"
  | missingValue => "a value is required"
  | invalidValue => "invalid value"
  | repeatedArgument => "the argument cannot be used multiple times"
  | missingRequired => "a required argument was not provided"
  | missingSubcommand => "a subcommand is required but none was provided"
  | unexpectedValue => "unexpected value"
  | help | helpForNothing => "usage: [global arguments] <command> [arguments]"

end ArgumentError

end ApiCli

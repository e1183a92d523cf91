import ApiCli.Client.Tree

/-! # The default command

A command line that names no command runs the default one, if there is one: its name is put
after the program's. A line that asks for help anywhere, or whose first word outside the global
arguments calls a command, stays as it is. -/

namespace ApiCli

def helpRequests : List String := ["help", "-h", "--help"]

/-- The first word that is neither an argument's name nor the value of a global argument. -/
def firstPositional : List String → Option String
  | [] => none
  | [word] => if word.toList.head? = some '-' then none else some word
  | word :: next :: rest =>
    if word.toList.head? = some '-' then
      if globalFlags.any fun flag => word = "--" ++ flag then firstPositional rest
      else firstPositional (next :: rest)
    else some word

/-- The command line with the default command called, where none is. -/
def withDefaultCommand (set : CommandSet) (args : List String) : List String :=
  match set.default? with
  | none => args
  | some default =>
    if args.tail.any fun word => helpRequests.contains word then args
    else if ((firstPositional args.tail).bind set.find?).isSome then args
    else
      match args with
      | [] => [default.name]
      | program :: rest => program :: default.name :: rest

end ApiCli

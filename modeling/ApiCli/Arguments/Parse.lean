import ApiCli.Arguments.Level

/-! # Reading a command line

`CommandTree.parse` reads the words after the program's name. The subcommand's level is read to
its end before the program's level is closed. A global argument may stand at both levels; the
value from the stronger source counts, and of equals the subcommand's. -/

namespace ApiCli

/-- What a command line was found to say. -/
structure Invocation where
  /-- The values of the program's own arguments. -/
  globals : Dict Given
  /-- The name of the subcommand called, and the values of its arguments. -/
  call : Option (String × Dict Given)

/-- Whether a value was given rather than defaulted. -/
def Given.isExplicit (g : Given) : Bool := g.source ≠ .default

/-- Refuse when an argument that has to be given is not. -/
def checkRequired (arguments : List Argument) (given : Dict Given) :
    Except ArgumentError Unit :=
  if arguments.any fun a => a.required && !(given.get? a.name).any Given.isExplicit then
    .error .missingRequired
  else .ok ()

namespace CommandTree

def rootLevel (t : CommandTree) : Level := ⟨t.arguments, t.subcommands, t.offersHelp⟩

/-- The level of a subcommand, which takes the global arguments too. -/
def subLevel (t : CommandTree) (s : Subcommand) : Level :=
  ⟨s.arguments ++ t.arguments.filter (·.isGlobal), [], true⟩

/-- Help about the subcommand that the words name. -/
def helpError (t : CommandTree) : List String → ArgumentError
  | [] => .help
  | word :: rest =>
    if (t.rootLevel.call? word).isSome && rest.isEmpty then .help else .invalidSubcommand

/-- The words after the one that called a subcommand. -/
def parseSub (t : CommandTree) (env : Environment) (s : Subcommand) (words : List String) :
    Except ArgumentError (Dict Given) := do
  let level := t.subLevel s
  let (reading, _) ← level.scan Reading.start words
  let given ← reading.close env level.arguments
  checkRequired level.arguments given
  return given

/-- Refuse a line that calls nothing where something has to be called. -/
def checkCalled (t : CommandTree) (given : Dict Given) : Except ArgumentError Unit :=
  if t.needsSubcommand then
    .error (if given.values.any Given.isExplicit then .missingSubcommand else .helpForNothing)
  else .ok ()

/-- The stronger of the values given at the two levels. -/
def strongerGiven (root : Option Given) (sub : Option Given) : Option Given :=
  match root, sub with
  | some r, some s => if r.source.rank > s.source.rank then some r else some s
  | some r, none => some r
  | none, s => s

/-- The values of the global arguments over both levels. -/
def mergeGlobals (t : CommandTree) (root sub : Dict Given) : Dict Given :=
  t.arguments.foldl
    (fun merged a =>
      match strongerGiven (root.get? a.name) (sub.get? a.name) with
      | some g => merged.insert a.name g
      | none => merged)
    root

/-- Read a command line, the first word of which is the program's name. -/
def parse (t : CommandTree) (env : Environment) (args : List String) :
    Except ArgumentError Invocation := do
  match ← t.rootLevel.scan Reading.start args.tail with
  | (reading, none) =>
    let given ← reading.close env t.arguments
    checkCalled t given
    checkRequired t.arguments given
    return ⟨given, none⟩
  | (_, some (.help, rest)) => throw (t.helpError rest)
  | (reading, some (.subcommand s, rest)) =>
    let sub ← t.parseSub env s rest
    let root ← reading.close env t.arguments
    return ⟨t.mergeGlobals root sub, some (s.name, sub)⟩

end CommandTree
end ApiCli

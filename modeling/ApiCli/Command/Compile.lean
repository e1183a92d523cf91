import ApiCli.Command.Basic
import ApiCli.Flag.OfParameter

/-! # Compiling documents

Every marked operation and every entry of the command map becomes a command, or a failure.

* `sharedParameters` compiles the shared parameters in name order, each against those before
  it.
* `Source.all` lists what is to become a command: marked operations in path and method order,
  then entries in name order.
* `compile` compiles every source in turn and either returns all commands or reports every
  failure. -/

namespace ApiCli

inductive FailureReason where
  | missingMethod
  | missingPath
  | invalidMethod (method : String)
  | missingName
  /-- An earlier command already has one of the names. -/
  | duplicateName
  | parameter (cause : ParameterError)
  deriving DecidableEq, Repr

def FailureReason.message : FailureReason → String
  | missingMethod => "missing method"
  | missingPath => "missing path"
  | invalidMethod method => "invalid method " ++ method
  | missingName => "missing command name (set x-swagger-cmd or operationId)"
  | duplicateName => "duplicate command name"
  | parameter cause => cause.message

/-- A source or shared parameter that could not be compiled. -/
structure Failure where
  operation : String
  reason : FailureReason
  deriving DecidableEq, Repr

def Failure.message (f : Failure) : String := f.operation ++ ": " ++ f.reason.message

/-- Everything that could not be compiled; never empty. -/
structure CompileError where
  failures : List Failure
  deriving DecidableEq, Repr

def CompileError.message (e : CompileError) : String :=
  "failed to generate commands: (" ++ ", ".intercalate (e.failures.map Failure.message) ++ ")"

/-! ## Shared parameters -/

/-- The shared parameters compiled so far, and those that failed. -/
structure SharedParameters where
  registry : Registry
  failures : List Failure

/-- One shared parameter. One in the body is held without being looked at. -/
def SharedParameters.add (env : Environment) (s : SharedParameters) (name : String)
    (p : Parameter) : Logged SharedParameters :=
  if p.location.isBody then pure { s with registry := s.registry.add name none }
  else do
    match ← (Flag.ofParameter env s.registry p).run with
    | .ok flag => return { s with registry := s.registry.add name flag }
    | .error e => return { s with failures := s.failures ++ [⟨Flag.reference name, .parameter e⟩] }

def sharedParameters (env : Environment) (parameters : Dict Parameter) :
    Logged SharedParameters :=
  parameters.entries.foldlM (fun s p => s.add env p.1 p.2) ⟨Registry.empty, []⟩

/-! ## Flags of a command -/

/-- The names of the global flags, which no parameter may take. -/
def reservedFlags : List String := ["help", "base-url", "swagger-path", "health-path"]

/-- One parameter of a command, over those before it. -/
def addFlag (env : Environment) (registry : Registry) (flags : Dict Flag) (p : Parameter) :
    ExceptT ParameterError Logged (Dict Flag) := do
  match ← Flag.ofParameter env registry p with
  | none => return flags
  | some flag =>
    if reservedFlags.contains flag.name then
      ExceptT.lift (Logged.note .shadowedGlobal)
      return flags
    else return flags.insert flag.name flag

/-- A flag without its short alias if that is among those `seen`, whether it was, and the
aliases seen after it. -/
def keepShort (seen : List Char) (flag : Flag) : List Char × Flag × Bool :=
  match flag.short with
  | none => (seen, flag, false)
  | some c =>
    if seen.contains c then (seen, { flag with short := none }, true)
    else (c :: seen, flag, false)

/-- The flags in name order, each with its short alias unless that is `h` or an earlier flag has
it. -/
def dedupeShorts (flags : Dict Flag) : Logged (Dict Flag) :=
  let kept := flags.scan keepShort ['h']
  ⟨kept.map (·.1), (kept.values.filter (·.2)).map fun _ => .shortAliasTaken⟩

/-- The flags of a command from its parameters; the last parameter of a name wins. -/
def compileFlags (env : Environment) (registry : Registry) (parameters : List Parameter) :
    ExceptT ParameterError Logged (Dict Flag) := do
  let flags ← parameters.foldlM (addFlag env registry) Dict.empty
  ExceptT.lift (dedupeShorts flags)

/-! ## Commands -/

/-- What is to become a command. -/
structure Source where
  name : Option String
  method : Option String
  path : Option String
  aliases : List String
  isDefault : Bool

namespace Source

/-- The source of an operation, if it is marked. An empty marker takes the name from the
operation's identifier. -/
def ofOperation? (path : String) (method : Method) (op : Operation) : Option Source :=
  op.command.map fun marker =>
    { name := if marker = "" then op.identifier.map Text.kebab else some marker
      method := some method.lowerName
      path := some path
      aliases := op.aliases
      isDefault := op.isDefault }

/-- The source of an entry of the command map. -/
def ofEntry (name : String) (entry : CommandEntry) : Source :=
  ⟨some name, entry.method, entry.path, entry.aliases, entry.isDefault⟩

def all (doc : Document) : List Source :=
  (doc.paths.entries.flatMap fun p => p.2.operations.filterMap fun op =>
    ofOperation? p.1 op.1 op.2) ++
  doc.commands.entries.map fun e => ofEntry e.1 e.2

/-- What a failure calls the source. -/
def label (s : Source) : String :=
  match s.name, s.method, s.path with
  | some name, _, _ => name
  | none, some method, some path => Text.uppercase method ++ " " ++ path
  | none, none, some path => path
  | none, _, none => "<unnamed>"

/-- The parameters that apply to a method of a path: those of the path, then those of the
operation. -/
def parameters (doc : Document) (method : Method) (path : String) : List Parameter :=
  match doc.paths.get? path with
  | none => []
  | some item => item.parameters ++ ((item.operation? method).map (·.parameters)).getD []

/-- The command of a source, apart from whether its names are free. -/
def compile (doc : Document) (env : Environment) (registry : Registry) (s : Source) :
    ExceptT FailureReason Logged Command :=
  match s.method with
  | none => throw .missingMethod
  | some method =>
    match s.path with
    | none => throw .missingPath
    | some path =>
      match s.name with
      | none => throw .missingName
      | some name =>
        match Method.ofName? method with
        | none => throw (.invalidMethod method)
        | some method => do
          let op := (doc.paths.get? path).bind fun item => item.operation? method
          let flags ← ExceptT.adapt FailureReason.parameter
            (compileFlags env registry (parameters doc method path))
          return {
            name
            aliases := s.aliases
            method
            path
            summary := (op.bind (·.summary)).getD ""
            description := (op.bind (·.description)).getD ""
            flags
            isDefault := s.isDefault }

end Source

/-- The commands compiled so far, and what failed. -/
structure Progress where
  commands : List Command
  failures : List Failure

/-- Whether a command already there has one of the names of `c`. -/
def Progress.isTaken (p : Progress) (c : Command) : Bool :=
  c.names.any fun name => p.commands.any fun d => d.isNamed name

/-- One source: a further command or a further failure. -/
def Progress.add (doc : Document) (env : Environment) (registry : Registry) (p : Progress)
    (s : Source) : Logged Progress := do
  match ← (s.compile doc env registry).run with
  | .error reason => return { p with failures := p.failures ++ [⟨s.label, reason⟩] }
  | .ok command =>
    if p.isTaken command then
      return { p with failures := p.failures ++ [⟨s.label, .duplicateName⟩] }
    else return { p with commands := p.commands ++ [command] }

/-- The commands of a document. Either every source compiles or every failure is reported. -/
def compile (doc : Document) (baseUrl : String) (env : Environment) :
    ExceptT CompileError Logged CommandSet := do
  let shared ← ExceptT.lift (sharedParameters env doc.parameters)
  let progress ← ExceptT.lift
    ((Source.all doc).foldlM (Progress.add doc env shared.registry) ⟨[], shared.failures⟩)
  if progress.failures.isEmpty then return ⟨progress.commands, shared.registry, baseUrl⟩
  else throw ⟨progress.failures⟩

end ApiCli

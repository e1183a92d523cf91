import ApiCli.Client.DefaultCommand
import ApiCli.Client.Dispatch
import ApiCli.Client.Remote
import ApiCli.Command.Compile
import ApiCli.Document.Load

/-! # One invocation

`Client.run` is one invocation of a client: read the global arguments, check the health of the
remote, fetch and compile its document, read the whole command line against the commands and run
the one that is called. Each step is taken only when all before it have succeeded. -/

namespace ApiCli

inductive RunError where
  | arguments (cause : ArgumentError)
  | health (cause : FetchError)
  | fetch (cause : FetchError)
  | load (cause : LoadError)
  | compile (cause : CompileError)
  | unknownCommand (name : String)
  | dispatch (cause : DispatchError)
  deriving DecidableEq, Repr

structure Client where
  config : Config
  tracer : Tracer
  /-- The environment that parameters refer to. -/
  env : Environment
  /-- The environment that the global arguments refer to. -/
  processEnv : Environment

namespace Client

/-- What stands for the error in the hint about a failed health check. -/
def errorPlaceholder : String := "\x7berror\x7d"

/-- The hint about a failed health check. -/
def healthHint (c : Client) (e : FetchError) : Option String :=
  c.config.healthFailedMessage.map (Text.replace errorPlaceholder e.message)

/-- Print the hint, if there is one. -/
def reportHealth (c : Client) (e : FetchError) : Action RunError Unit :=
  match c.healthHint e with
  | none => pure ()
  | some hint => do
    if ← Session.writeErr (hint ++ "\n").toUTF8.toList then return ()
    else Session.note .unprintedHint

/-- Whoever asks the remote for this client. -/
def remote (c : Client) : Remote := ⟨c.tracer, c.config.name⟩

def checkHealth (c : Client) (globals : Globals) : Action RunError Unit := do
  match ← ExceptT.lift (c.remote.checkHealth globals.baseUrl globals.healthPath).run with
  | .ok () => return ()
  | .error e =>
    c.reportHealth e
    throw (.health e)

def fetchCommands (c : Client) (globals : Globals) : Action RunError CommandSet := do
  let text ← ExceptT.adapt RunError.fetch
    (c.remote.fetchDocument globals.baseUrl globals.specPath)
  let doc ← Session.logged (ExceptT.adapt RunError.load (Document.load text))
  Session.logged (ExceptT.adapt RunError.compile (ApiCli.compile doc globals.baseUrl c.env))

/-- The command that a command line calls, and the values bound to its flags. -/
def parseCall (c : Client) (set : CommandSet) (args : List String) :
    Except RunError (Command × Dict Bound) := do
  let tree := c.config.commandTree set
  match tree.parse c.processEnv (withDefaultCommand set args) with
  | .error e => throw (.arguments e)
  | .ok ⟨_, none⟩ => throw (.unknownCommand "")
  | .ok ⟨_, some (name, given)⟩ =>
    match set.find? name with
    | none => throw (.unknownCommand name)
    | some command => return (command, boundValues command given)

def dispatcher (c : Client) (args : List String) : Dispatcher :=
  ⟨c.tracer, c.config.name, if c.config.sendRawArgs then some (" ".intercalate args) else none⟩

/-- One invocation; the first of the arguments is the program's name. -/
def run (c : Client) (args : List String) : Action RunError Unit := do
  match c.config.parseGlobals c.processEnv args with
  | .error e => throw (.arguments e)
  | .ok globals => do
    c.checkHealth globals
    let set ← c.fetchCommands globals
    match c.parseCall set args with
    | .error e => throw e
    | .ok (command, bound) =>
      ExceptT.adapt RunError.dispatch ((c.dispatcher args).execute command set.baseUrl bound)

end Client

namespace RunError

def message : RunError → String
  | arguments cause => cause.message
  | health _ => "health check failed"
  | fetch _ => "failed to get swagger"
  | load cause => cause.message
  | compile cause => cause.message
  | unknownCommand name => "unknown command " ++ name
  | dispatch cause => cause.message

/-- The text of an error and of its causes. -/
def chain (e : RunError) : List String :=
  match e with
  | health cause | fetch cause => e.message :: cause.chain
  | load cause => cause.chain
  | dispatch cause => cause.chain
  | arguments _ | compile _ | unknownCommand _ => [e.message]

/-- The status with which the program ends. -/
def exitCode : RunError → Nat
  | arguments cause => cause.exitCode
  | _ => 1

end RunError
end ApiCli

import ApiCli.Client.Binding
import ApiCli.Http.Endpoint
import ApiCli.Http.Status
import ApiCli.Trace
import ApiCli.Url.Query

/-! # Running a command

`Dispatcher.execute` builds the request of a command, sends it and prints the body of the
answer without the line ends around it. A body that cannot be read is reported and counts as
empty; the status of the answer changes nothing but the log. -/

namespace ApiCli

/-- Why a command could not be run. -/
inductive DispatchError where
  | invalidUrl (url : String) (cause : UrlError)
  | unboundPathParameter (name : String)
  | invalidHeader (name : String)
  | transport (cause : TransportError)
  | output
  deriving DecidableEq, Repr

namespace DispatchError

def message : DispatchError → String
  | invalidUrl url _ => "invalid request URL: " ++ url
  | unboundPathParameter name => "path parameter " ++ name ++ " was not bound"
  | invalidHeader name => "invalid header " ++ name
  | transport _ => "HTTP request failed"
  | output => "failed to write output"

/-- The text of an error and of its causes. -/
def chain (e : DispatchError) : List String :=
  e.message ::
    match e with
    | invalidUrl _ cause => [cause.message]
    | transport cause => cause.chain
    | output => [sinkFull]
    | unboundPathParameter _ | invalidHeader _ => []

end DispatchError

/-- The field that carries the command line. -/
def rawArgsHeader : String := "x-raw-args"

/-- What all requests of a client share. -/
structure Dispatcher where
  tracer : Tracer
  userAgent : String
  /-- The command line, if it is sent along. -/
  rawArgs : Option String

namespace Dispatcher

/-- Add a field, or fail with its name. -/
def putHeader (headers : Headers) (name value : String) : Except DispatchError Headers :=
  match headers.put? name value with
  | some headers => .ok headers
  | none => .error (.invalidHeader name)

/-- The fields that every request of a command has. -/
def fixedHeaders (d : Dispatcher) : Except DispatchError Headers := do
  let headers ← putHeader (Headers.standard "text/plain") "user-agent" d.userAgent
  match d.rawArgs with
  | none => return headers
  | some args => putHeader headers rawArgsHeader args

/-- The fields of a request, without the trace context. -/
def headers (d : Dispatcher) (c : Command) (bound : Dict Bound) :
    Except DispatchError Headers := do
  (sendable c bound .header).foldlM
    (fun headers s => putHeader headers s.1.paramName s.2.joined) (← d.fixedHeaders)

def requestUrl (c : Command) (baseUrl : String) (bound : Dict Bound) :
    Except DispatchError Url :=
  match bindPath c bound with
  | .error name => .error (.unboundPathParameter name)
  | .ok path =>
    let text := endpoint baseUrl path
    match Url.parse text with
    | .error e => .error (.invalidUrl text e)
    | .ok url => .ok (url.addPairs (bindQuery c bound))

/-- The request of a command within a span. -/
def buildRequest (d : Dispatcher) (c : Command) (baseUrl : String) (bound : Dict Bound)
    (span : Span) : ExceptT DispatchError Logged Request := do
  let url ← liftExcept (requestUrl c baseUrl bound)
  let headers ← liftExcept (d.headers c bound)
  return ⟨c.method, url, ← ExceptT.lift (span.inject headers)⟩
where
  /-- A result as a step that notes nothing. -/
  liftExcept {α : Type} (x : Except DispatchError α) : ExceptT DispatchError Logged α :=
    ExceptT.mk (pure x)

/-- The octet that ends a line. -/
def lineEnd : UInt8 := 10

/-- The octets without the line ends at both ends. -/
def trimLineEnds (bytes : List UInt8) : List UInt8 :=
  ((bytes.dropWhile (· = lineEnd)).reverse.dropWhile (· = lineEnd)).reverse

/-- The octets of a body; one that cannot be read is reported and is empty. -/
def readBody (body : Body) : Action DispatchError (List UInt8) :=
  match body.bytes with
  | .ok bytes => pure bytes
  | .error message => do
    Session.note .unreadBody
    if ← Session.writeErr ("ERR: " ++ message ++ "\n").toUTF8.toList then return []
    else throw .output

/-- Print octets as a line, whose end is written once they all are. -/
def printLine (bytes : List UInt8) : Action DispatchError Unit := do
  if ← (Session.writeOut bytes <&&> Session.writeOut [lineEnd]) then return ()
  else throw .output

def execute (d : Dispatcher) (c : Command) (baseUrl : String) (bound : Dict Bound) :
    Action DispatchError Unit := do
  let span ← d.tracer.start "cli-run"
  let request ← Session.logged (d.buildRequest c baseUrl bound span)
  let response ← ExceptT.adapt DispatchError.transport (Session.send request)
  if !Status.isSuccess response.status then Session.note .unsuccessfulAnswer
  printLine (trimLineEnds (← readBody response.body))

end Dispatcher
end ApiCli

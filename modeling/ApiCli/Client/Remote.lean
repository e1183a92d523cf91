import ApiCli.Http.Endpoint
import ApiCli.Http.Status
import ApiCli.Trace
import ApiCli.Url.Parse

/-! # Asking the remote

Before any command is known the remote is asked for its health and for its document. Both are
plain requests that have to be answered with a success. -/

namespace ApiCli

/-- Why the remote could not be asked. -/
inductive FetchError where
  | invalidUrl (url : String) (cause : UrlError)
  | transport (url : String) (cause : TransportError)
  | status (url : String) (code : Nat)
  | body (url : String) (cause : String)
  deriving DecidableEq, Repr

namespace FetchError

def message : FetchError → String
  | invalidUrl url _ => "invalid URL: " ++ url
  | transport url _ => "request to " ++ url ++ " failed"
  | status url code => "HTTP " ++ Status.describe code ++ " from " ++ url
  | body url _ => "failed to read response body from " ++ url

/-- The text of an error and of its causes. -/
def chain (e : FetchError) : List String :=
  e.message ::
    match e with
    | invalidUrl _ cause => [cause.message]
    | transport _ cause => cause.chain
    | status .. => []
    | body _ cause => [cause]

end FetchError

structure Remote where
  tracer : Tracer
  userAgent : String

namespace Remote

/-- The fields of a request, without the trace context. A user agent that cannot travel is left
out. -/
def headers (r : Remote) : Logged Headers :=
  let headers := Headers.standard "application/json"
  match headers.put? "user-agent" r.userAgent with
  | some headers => pure headers
  | none => do
    Logged.note .omittedUserAgent
    return headers

/-- The request for a URL within a span. -/
def request (r : Remote) (url : Url) (span : Span) : Logged Request := do
  return ⟨.get, url, ← span.inject (← r.headers)⟩

/-- Ask for a URL and expect a success. -/
def get (r : Remote) (spanName url : String) : Action FetchError Response := do
  let span ← r.tracer.start spanName
  match Url.parse url with
  | .error e => throw (.invalidUrl url e)
  | .ok parsed => do
    let request ← Session.logged (ExceptT.lift (r.request parsed span))
    let response ← ExceptT.adapt (FetchError.transport url) (Session.send request)
    if Status.isSuccess response.status then return response
    else throw (.status url response.status)

def fetchDocument (r : Remote) (baseUrl path : String) : Action FetchError String := do
  let url := endpoint baseUrl path
  let response ← r.get "swagger" url
  match response.body.text with
  | .ok text => return text
  | .error cause => throw (.body url cause)

/-- Check the health; there is nothing to check under an empty path. -/
def checkHealth (r : Remote) (baseUrl path : String) : Action FetchError Unit := do
  if path = "" then return ()
  else discard (r.get "health" (endpoint baseUrl path))

end Remote
end ApiCli

import ApiCli.Http.Request
import ApiCli.Http.Response
import ApiCli.Log

/-! # Sessions

A session is what goes on between a client and the outside: the remote's answers to come, the
token that calls everything off, the requests that were sent, the spans that were started, the
two outputs and the events noted.

* `Reply` is what the remote does with one request; a session holds those to come.
* `send` sends a request, unless the session is cancelled.
* `Sink` is an output that may have room for a limited number of octets.
* `Action ε α` is a step of a session that may fail; the session goes on from where it failed. -/

namespace ApiCli

inductive TransportError where
  | cancelled
  | io (message : String)
  deriving DecidableEq, Repr

namespace TransportError

def message : TransportError → String
  | cancelled => "request cancelled"
  | io _ => "transport I/O failed"

/-- The text of an error and of its cause. -/
def chain (e : TransportError) : List String :=
  match e with
  | cancelled => [e.message]
  | io cause => [e.message, cause]

end TransportError

/-- What the remote does with one request. -/
structure Reply where
  /-- Whether the session is cancelled while the request is on its way. -/
  cancels : Bool
  outcome : Except TransportError Response

/-- The reply of a remote that nothing is known of: success with an empty body. -/
def Reply.empty : Reply := ⟨false, .ok ⟨200, ⟨[], none⟩⟩⟩

structure Sink where
  written : List UInt8
  /-- How many more octets are taken; `none` for any number. -/
  room : Option Nat
  deriving DecidableEq, Repr

def sinkFull : String := "sink full"

/-- Write octets: as many as there is room for, and whether that was all. -/
def Sink.write (s : Sink) (bytes : List UInt8) : Bool × Sink :=
  match s.room with
  | none => (true, { s with written := s.written ++ bytes })
  | some room =>
    (bytes.length ≤ room,
      { written := s.written ++ bytes.take room, room := some (room - bytes.length) })

structure Session where
  /-- The replies to the requests to come. -/
  replies : List Reply
  cancelled : Bool
  /-- The requests sent, oldest first. -/
  sent : List Request
  /-- The names of the spans started, oldest first. -/
  spans : List String
  out : Sink
  err : Sink
  /-- The events noted, oldest first. -/
  log : List Event

/-- A session in which nothing has happened, with outputs of unlimited room. -/
def Session.start : Session := ⟨[], false, [], [], ⟨[], none⟩, ⟨[], none⟩, []⟩

/-- A step of a session. -/
abbrev Action (ε α : Type) := ExceptT ε (StateM Session) α

namespace Session

def note (e : Event) : Action ε Unit :=
  modify fun s => { s with log := s.log ++ [e] }

/-- The result of a step that only notes events. -/
def logged (x : ExceptT ε Logged α) : Action ε α := do
  modify fun s => { s with log := s.log ++ x.run.log }
  MonadExcept.ofExcept x.run.value

/-- Write to the output, and tell whether all was taken. -/
def writeOut (bytes : List UInt8) : Action ε Bool :=
  modifyGet fun s => ((s.out.write bytes).1, { s with out := (s.out.write bytes).2 })

/-- Write to the output for errors, and tell whether all was taken. -/
def writeErr (bytes : List UInt8) : Action ε Bool :=
  modifyGet fun s => ((s.err.write bytes).1, { s with err := (s.err.write bytes).2 })

/-- The session after a request was sent, which takes the next reply. -/
def afterSend (s : Session) (r : Request) : Session :=
  { s with
    sent := s.sent ++ [r]
    replies := s.replies.tail
    cancelled := s.cancelled || (s.replies.headD .empty).cancels }

/-- Send a request. Nothing is sent once the session is cancelled. -/
def send (r : Request) : Action TransportError Response := fun s =>
  if s.cancelled then (.error .cancelled, s)
  else ((s.replies.headD .empty).outcome, s.afterSend r)

end Session
end ApiCli

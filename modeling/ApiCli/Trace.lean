import ApiCli.Session

/-! # Trace context

A span is opened around every request. A tracer with a trace of its own gives each span the next
of its identifiers, and `inject` writes trace and span into the request's `traceparent` field,
where it replaces whatever was there. -/

namespace ApiCli

/-- The identifier of the span after `count` others: their number in sixteen hexadecimal
digits. -/
def spanIdAfter (count : Nat) : String :=
  let digits := Nat.toDigits 16 (count + 1)
  String.ofList (List.replicate (16 - digits.length) '0' ++ digits)

/-- Whether spans carry a trace. -/
inductive Tracer where
  | none
  /-- The spans of the trace `id`; the span after `count` others has the identifier
  `spanId count`. -/
  | trace (id : String) (spanId : Nat → String := spanIdAfter)

structure SpanContext where
  traceId : String
  /-- Sixteen hexadecimal digits. -/
  spanId : String
  deriving DecidableEq, Repr

/-- An open span. -/
structure Span where
  name : String
  context : Option SpanContext
  deriving DecidableEq, Repr

def traceparent : String := "traceparent"

def SpanContext.headerValue (c : SpanContext) : String :=
  "00-" ++ c.traceId ++ "-" ++ c.spanId ++ "-01"

namespace Tracer

/-- The span of a name that is started after `count` others. -/
def span (t : Tracer) (name : String) (count : Nat) : Span :=
  match t with
  | none => ⟨name, .none⟩
  | trace id spanId => ⟨name, some ⟨id, spanId count⟩⟩

def start (t : Tracer) (name : String) : Action ε Span := fun s =>
  (.ok (t.span name s.spans.length), { s with spans := s.spans ++ [name] })

end Tracer

/-- The header fields with the context of a span, if it has one that can travel. -/
def Span.inject (span : Span) (headers : Headers) : Logged Headers :=
  match span.context with
  | none => pure headers
  | some context =>
    match headers.put? traceparent context.headerValue with
    | some headers => pure headers
    | none => do
      Logged.note .uninjectedSpan
      return headers

end ApiCli

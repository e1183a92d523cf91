import ApiCli.Client.Dispatch
import ApiCli.Proofs.Except
import ApiCli.Proofs.Session.Exchange

/-!
# Requests of commands

The request that a command builds, and what running a command does to a session: it attempts
that one request, and writes to the output only once the request is sent.
-/

namespace ApiCli.Dispatcher
open Session ApiCli.Action

/-- Whether a request can be built does not depend on the span. -/
theorem buildRequest_value (d : Dispatcher) (c : Command) (baseUrl : String) (bound : Dict Bound)
    (span : Span) :
    (d.buildRequest c baseUrl bound span).run.value =
      (requestUrl c baseUrl bound).bind fun url =>
        (d.headers c bound).map fun headers => ⟨c.method, url, (span.inject headers).value⟩ := by
  unfold buildRequest buildRequest.liftExcept
  cases requestUrl c baseUrl bound with
  | error e => rfl
  | ok url => cases d.headers c bound <;> rfl

theorem buildRequest_eq_ok {d : Dispatcher} {c : Command} {baseUrl : String} {bound : Dict Bound}
    {span : Span} {r : Request} (h : (d.buildRequest c baseUrl bound span).run.value = .ok r) :
    requestUrl c baseUrl bound = .ok r.url ∧
      ∃ headers, d.headers c bound = .ok headers ∧ r.headers = (span.inject headers).value := by
  rw [buildRequest_value] at h
  obtain ⟨url, hurl, h⟩ := Except.bind_eq_ok.1 h
  obtain ⟨headers, hheaders, rfl⟩ := Except.map_eq_ok.1 h
  exact ⟨hurl, headers, hheaders, rfl⟩

/-- A request that a command can build. -/
def Builds (d : Dispatcher) (c : Command) (baseUrl : String) (bound : Dict Bound)
    (r : Request) : Prop :=
  ∃ span, (d.buildRequest c baseUrl bound span).run.value = .ok r

/-- A command that builds a request in one span builds one in any other. -/
theorem Builds.exists_buildRequest {d : Dispatcher} {c : Command} {baseUrl : String}
    {bound : Dict Bound} {r : Request} (h : d.Builds c baseUrl bound r) (span : Span) :
    ∃ r, (d.buildRequest c baseUrl bound span).run.value = .ok r := by
  obtain ⟨_, h⟩ := h
  obtain ⟨hurl, headers, hheaders, -⟩ := buildRequest_eq_ok h
  rw [buildRequest_value, hurl, hheaders]
  exact ⟨_, rfl⟩

/-- The span that running a command opens. -/
def runSpan (d : Dispatcher) (s : Session) : Span := d.tracer.span "cli-run" s.spans.length

/-! ## Running a command -/

/-- What running a command does once its request is answered. -/
def receive (outcome : Except TransportError Response) : Action DispatchError Unit :=
  match outcome with
  | .error e => throw (.transport e)
  | .ok response => do
    if !Status.isSuccess response.status then Session.note .unsuccessfulAnswer
    printLine (trimLineEnds (← readBody response.body))

theorem local_readBody (body : Body) : Local (readBody body) := by
  unfold readBody
  split
  · exact .pure _
  · exact .bind (.note _) fun _ => .bind (.writeErr _) fun _ => .ite (.pure _) (.throw _)

theorem local_printLine (bytes : List UInt8) : Local (printLine bytes) := by
  refine .bind (.bind (.writeOut _) fun printed => ?_) fun _ => .ite (.pure _) (.throw _)
  cases printed
  · exact .pure _
  · exact .writeOut _

theorem local_receive (outcome : Except TransportError Response) : Local (receive outcome) := by
  unfold receive
  split
  · exact .throw _
  · have hprint (response : Response) :
        Local (do printLine (trimLineEnds (← readBody response.body))) :=
      .bind (local_readBody _) fun _ => local_printLine _
    exact .ite (.bind (.note _) fun _ => hprint _) (hprint _)

/-- The session in which a command's request is sent. -/
def beforeSend (d : Dispatcher) (c : Command) (baseUrl : String) (bound : Dict Bound)
    (s : Session) : Session :=
  { s with
    spans := s.spans ++ ["cli-run"]
    log := s.log ++ (d.buildRequest c baseUrl bound (d.runSpan s)).run.log }

/-- Running a command builds its request in the span that it opens, sends it and waits for the
answer. -/
theorem execute_apply (d : Dispatcher) (c : Command) (baseUrl : String) (bound : Dict Bound)
    (s : Session) :
    d.execute c baseUrl bound s =
      match (d.buildRequest c baseUrl bound (d.runSpan s)).run.value with
      | .error e => (.error e, d.beforeSend c baseUrl bound s)
      | .ok r =>
        if s.cancelled then (.error (.transport .cancelled), d.beforeSend c baseUrl bound s)
        else receive (s.reply 0).outcome ((d.beforeSend c baseUrl bound s).afterSend r) := by
  have hcancelled : (d.beforeSend c baseUrl bound s).cancelled = s.cancelled := rfl
  have hreply : (d.beforeSend c baseUrl bound s).reply 0 = s.reply 0 := rfl
  unfold execute
  rw [bind_apply]
  simp only [Tracer.start, bind_apply (Session.logged _), logged_apply]
  rw [← runSpan]
  unfold beforeSend at hcancelled hreply ⊢
  generalize d.buildRequest c baseUrl bound (d.runSpan s) = x at hcancelled hreply ⊢
  generalize { s with spans := s.spans ++ ["cli-run"], log := s.log ++ x.run.log } = s₁
    at hcancelled hreply ⊢
  cases x.run.value with
  | error e => rfl
  | ok r =>
    dsimp only
    rw [bind_apply, adapt_apply]
    cases hc : s.cancelled with
    | true =>
      rw [send_of_cancelled (hcancelled.trans hc)]
      rfl
    | false =>
      rw [send_of_open (hcancelled.trans hc), hreply]
      cases (s.reply 0).outcome <;> rfl

/-- Running a command attempts its request in the span that it opens. -/
theorem execute_attempt_runSpan (d : Dispatcher) (c : Command) (baseUrl : String)
    (bound : Dict Bound) (s : Session) :
    ∃ requests, Attempt
        (fun r => (d.buildRequest c baseUrl bound (d.runSpan s)).run.value = .ok r) s requests
        (d.execute c baseUrl bound s).2 ∧
      (requests = [] → (d.execute c baseUrl bound s).2.out = s.out) := by
  have hbefore : SameRemote s (d.beforeSend c baseUrl bound s) := ⟨rfl, rfl, rfl⟩
  rw [execute_apply]
  cases hr : (d.buildRequest c baseUrl bound (d.runSpan s)).run.value with
  | error e =>
    have hnone : ¬∃ r, (Except.error e : Except DispatchError Request) = .ok r := by
      rintro ⟨r, h⟩
      cases h
    exact ⟨[], .unsent (.inr hnone) hbefore.exchange, fun _ => rfl⟩
  | ok r =>
    cases hc : s.cancelled with
    | true => exact ⟨[], .unsent (.inl hc) hbefore.exchange, fun _ => rfl⟩
    | false =>
      have hsent : Exchange s [r] ((d.beforeSend c baseUrl bound s).afterSend r) :=
        hbefore.exchange.trans (.afterSend (by exact hc) r)
      exact ⟨[r], .sent rfl (hsent.sameRemote ((local_receive _).sameRemote _)), nofun⟩

/-- Running a command attempts its request, and leaves the output alone without one. -/
theorem execute_attempt (d : Dispatcher) (c : Command) (baseUrl : String) (bound : Dict Bound)
    (s : Session) :
    ∃ requests, Attempt (d.Builds c baseUrl bound) s requests (d.execute c baseUrl bound s).2 ∧
      (requests = [] → (d.execute c baseUrl bound s).2.out = s.out) := by
  obtain ⟨requests, hattempt, hout⟩ := d.execute_attempt_runSpan c baseUrl bound s
  refine ⟨requests, hattempt.mono (fun r hr => ⟨_, hr⟩) ?_, hout⟩
  rintro ⟨r, hr⟩
  exact hr.exists_buildRequest (d.runSpan s)

/-- A request that running a command sends is the one built in the span that it opens. -/
theorem buildRequest_of_execute {d : Dispatcher} {c : Command} {baseUrl : String}
    {bound : Dict Bound} {s : Session}
    (hsent : (d.execute c baseUrl bound s).2.sent = s.sent ++ requests) (hr : r ∈ requests) :
    (d.buildRequest c baseUrl bound (d.runSpan s)).run.value = .ok r := by
  obtain ⟨_, hattempt, -⟩ := d.execute_attempt_runSpan c baseUrl bound s
  exact hattempt.isDue hsent hr

end ApiCli.Dispatcher

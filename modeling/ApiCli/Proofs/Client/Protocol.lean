import ApiCli.Client.Run
import ApiCli.Proofs.Client.Dispatch
import ApiCli.Proofs.Except

/-!
# The protocol of an invocation

An invocation sends at most three requests: one for the health of the remote, one for its
document and one for the command.

* `Globals.stages` lists the stages that apply, and `Client.Due` says which request is due at a
  stage: it depends on the replies to the requests before it.
* `run_follows` is the step: one invocation sends what is due in turn.
* `Happening` is what can become of a session between and during invocations, and
  `Client.after` the session after a history of happenings.
-/

namespace ApiCli
open Session ApiCli.Action

/-- A request that asks for a URL. -/
def Request.IsGet (url : String) (r : Request) : Prop :=
  r.method = .get ∧ Url.parse url = .ok r.url

/-- The remote answered with a success. -/
def Reply.Succeeds (r : Reply) : Prop :=
  ∃ response, r.outcome = .ok response ∧ Status.isSuccess response.status = true

/-! ## Asking the remote -/

namespace Remote

/-- The request for a URL in the span that is opened for it. -/
def spanRequest (r : Remote) (name : String) (url : Url) (s : Session) : Logged Request :=
  r.request url (r.tracer.span name s.spans.length)

/-- The session in which a request is sent. -/
def beforeSend (r : Remote) (name : String) (url : Url) (s : Session) : Session :=
  { s with spans := s.spans ++ [name], log := s.log ++ (r.spanRequest name url s).log }

/-- What the outcome of a request for a URL comes to: only a success is accepted. -/
def accept (url : String) (outcome : Except TransportError Response) :
    Except FetchError Response :=
  match outcome with
  | .error e => .error (.transport url e)
  | .ok response =>
    if Status.isSuccess response.status then .ok response else .error (.status url response.status)

theorem accept_eq_ok {url : String} {outcome : Except TransportError Response}
    {response : Response} : accept url outcome = .ok response ↔
      outcome = .ok response ∧ Status.isSuccess response.status = true := by
  unfold accept
  cases outcome with
  | error e => simp
  | ok got => grind

/-- Asking for a URL builds the request in the span that it opens, sends it and looks at the
answer. -/
theorem get_apply (r : Remote) (name url : String) (s : Session) :
    r.get name url s =
      match Url.parse url with
      | .error e => (.error (.invalidUrl url e), { s with spans := s.spans ++ [name] })
      | .ok parsed =>
        if s.cancelled then (.error (.transport url .cancelled), r.beforeSend name parsed s)
        else (accept url (s.reply 0).outcome,
          (r.beforeSend name parsed s).afterSend (r.spanRequest name parsed s).value) := by
  unfold Remote.get
  rw [bind_apply]
  simp only [Tracer.start]
  cases Url.parse url with
  | error e => rfl
  | ok parsed =>
    have hcancelled : (r.beforeSend name parsed s).cancelled = s.cancelled := rfl
    have hreply : (r.beforeSend name parsed s).reply 0 = s.reply 0 := rfl
    simp only [bind_apply, logged_lift_apply, adapt_apply]
    rw [← spanRequest]
    unfold beforeSend at hcancelled hreply ⊢
    generalize r.spanRequest name parsed s = x at hcancelled hreply ⊢
    generalize { s with spans := s.spans ++ [name], log := s.log ++ x.log } = s₁
      at hcancelled hreply ⊢
    cases hc : s.cancelled with
    | true =>
      rw [send_of_cancelled (hcancelled.trans hc)]
      rfl
    | false =>
      rw [send_of_open (hcancelled.trans hc), hreply]
      cases (s.reply 0).outcome with
      | error e => rfl
      | ok response =>
        simp only [accept, Except.mapError_ok]
        split <;> rfl

theorem get_attempt (r : Remote) (name url : String) (s : Session) :
    ∃ requests, Attempt (Request.IsGet url) s requests (r.get name url s).2 ∧
      (r.get name url s).2.out = s.out ∧
      ∀ response, (r.get name url s).1 = .ok response ↔ requests ≠ [] ∧
        (s.reply 0).outcome = .ok response ∧ Status.isSuccess response.status = true := by
  rw [get_apply]
  cases hurl : Url.parse url with
  | error e =>
    refine ⟨[], .unsent (.inr ?_) (SameRemote.exchange ⟨rfl, rfl, rfl⟩), rfl, by simp⟩
    rintro ⟨r, -, hr⟩
    rw [hurl] at hr
    cases hr
  | ok parsed =>
    have hbefore : SameRemote s (r.beforeSend name parsed s) := ⟨rfl, rfl, rfl⟩
    cases hc : s.cancelled with
    | true => exact ⟨[], .unsent (.inl hc) hbefore.exchange, rfl, by simp⟩
    | false =>
      have hget : Request.IsGet url (r.spanRequest name parsed s).value := ⟨rfl, hurl⟩
      have hsent := hbefore.exchange.trans
        (.afterSend (by exact hc) (r.spanRequest name parsed s).value)
      exact ⟨_, .sent hget hsent, rfl, by simp [accept_eq_ok]⟩

theorem fetchDocument_apply (r : Remote) (baseUrl path : String) (s : Session) :
    r.fetchDocument baseUrl path s =
      ((r.get "swagger" (endpoint baseUrl path) s).1.bind fun response =>
        response.body.text.mapError (FetchError.body (endpoint baseUrl path)),
        (r.get "swagger" (endpoint baseUrl path) s).2) := by
  unfold Remote.fetchDocument
  rw [bind_apply]
  rcases r.get "swagger" (endpoint baseUrl path) s with ⟨e | response, s'⟩
  · rfl
  · dsimp only
    cases h : response.body.text with
    | error e => simp [Except.bind, Except.mapError_error, h, throw_apply]
    | ok text => simp [Except.bind, Except.mapError_ok, h, pure_apply]

end Remote

namespace Client

/-! ## The stages before the command -/

theorem reportHealth_apply (c : Client) (e : FetchError) (s : Session) :
    ∃ err log, c.reportHealth e s = (.ok (), { s with err, log }) := by
  unfold reportHealth
  cases c.healthHint e with
  | none => exact ⟨s.err, s.log, rfl⟩
  | some hint =>
    simp only [bind_apply]
    change ∃ err log, (if (s.err.write (hint ++ "\n").toUTF8.toList).1 = true then _ else _ :
      Action RunError Unit) _ = _
    split <;> exact ⟨_, _, rfl⟩

theorem checkHealth_of_empty (c : Client) {g : Globals} (h : g.healthPath = "") (s : Session) :
    c.checkHealth g s = (.ok (), s) := by
  simp [checkHealth, Remote.checkHealth, h, bind_apply, pure_apply]

theorem checkHealth_apply (c : Client) {g : Globals} (h : g.healthPath ≠ "") (s : Session) :
    ∃ err log, c.checkHealth g s =
      (((c.remote.get "health" (endpoint g.baseUrl g.healthPath) s).1.map fun _ => ()).mapError
          RunError.health,
        { (c.remote.get "health" (endpoint g.baseUrl g.healthPath) s).2 with err, log }) := by
  unfold checkHealth Remote.checkHealth
  simp only [h, if_false, bind_apply, lift_apply, discard_apply]
  rcases c.remote.get "health" (endpoint g.baseUrl g.healthPath) s with ⟨e | response, s'⟩
  · simp only [Except.map, Except.mapError_error, bind_apply]
    obtain ⟨err, log, hreport⟩ := c.reportHealth_apply e s'
    rw [hreport]
    exact ⟨err, log, rfl⟩
  · exact ⟨_, _, rfl⟩

theorem checkHealth_attempt (c : Client) {g : Globals} (h : g.healthPath ≠ "") (s : Session) :
    ∃ requests, Attempt (Request.IsGet (endpoint g.baseUrl g.healthPath)) s requests
        (c.checkHealth g s).2 ∧
      (c.checkHealth g s).2.out = s.out ∧
      ((c.checkHealth g s).1 = .ok () ↔ requests ≠ [] ∧ (s.reply 0).Succeeds) := by
  obtain ⟨requests, ha, ho, hr⟩ :=
    c.remote.get_attempt "health" (endpoint g.baseUrl g.healthPath) s
  obtain ⟨err, log, happly⟩ := c.checkHealth_apply h s
  rw [happly]
  generalize c.remote.get "health" (endpoint g.baseUrl g.healthPath) s = got at ha ho hr ⊢
  refine ⟨requests, ha.sameRemote ⟨rfl, rfl, rfl⟩, ho, ?_⟩
  simp only [Except.mapError_eq_ok, Except.map_eq_ok, hr, Reply.Succeeds, and_true,
    exists_and_left]

/-- The commands that a reply to the request for the document compiles to: the answer is a
success, its body can be read, and its text is a document that compiles. -/
def Fetched (c : Client) (g : Globals) (reply : Reply) (set : CommandSet) : Prop :=
  ∃ response text doc, reply.outcome = .ok response ∧ Status.isSuccess response.status = true ∧
    response.body.text = .ok text ∧ (Document.load text).run.value = .ok doc ∧
    (compile doc g.baseUrl c.env).run.value = .ok set

theorem fetchCommands_apply (c : Client) (g : Globals) (s : Session) :
    ∃ log, c.fetchCommands g s =
      (((c.remote.fetchDocument g.baseUrl g.specPath s).1.mapError RunError.fetch).bind fun text =>
        ((Document.load text).run.value.mapError RunError.load).bind fun doc =>
          (compile doc g.baseUrl c.env).run.value.mapError RunError.compile,
        { (c.remote.fetchDocument g.baseUrl g.specPath s).2 with log := log }) := by
  unfold fetchCommands
  simp only [bind_apply, adapt_apply]
  rcases c.remote.fetchDocument g.baseUrl g.specPath s with ⟨e | text, s'⟩
  · exact ⟨_, rfl⟩
  · simp only [Except.mapError_ok, logged_apply, Except.bind]
    have hload : (ExceptT.adapt RunError.load (Document.load text)).run.value =
        (Document.load text).run.value.mapError RunError.load := rfl
    rw [hload]
    cases (Document.load text).run.value <;> exact ⟨_, rfl⟩

theorem fetchCommands_attempt (c : Client) (g : Globals) (s : Session) :
    ∃ requests, Attempt (Request.IsGet (endpoint g.baseUrl g.specPath)) s requests
        (c.fetchCommands g s).2 ∧
      (c.fetchCommands g s).2.out = s.out ∧
      ∀ set, (c.fetchCommands g s).1 = .ok set ↔ requests ≠ [] ∧ c.Fetched g (s.reply 0) set := by
  obtain ⟨requests, ha, ho, hr⟩ :=
    c.remote.get_attempt "swagger" (endpoint g.baseUrl g.specPath) s
  obtain ⟨log, happly⟩ := c.fetchCommands_apply g s
  rw [happly, Remote.fetchDocument_apply]
  generalize c.remote.get "swagger" (endpoint g.baseUrl g.specPath) s = got at ha ho hr ⊢
  refine ⟨requests, ha.sameRemote ⟨rfl, rfl, rfl⟩, ho, fun set => ?_⟩
  change (((_ >>= _ : Except FetchError String).mapError _) >>= fun text =>
    _ >>= fun doc => _) = .ok set ↔ _
  simp only [Except.bind_eq_ok, Except.mapError_eq_ok, hr, Fetched]
  constructor
  · rintro ⟨text, ⟨response, ⟨hne, hout, hs⟩, htext⟩, doc, hdoc, hset⟩
    exact ⟨hne, response, text, doc, hout, hs, htext, hdoc, hset⟩
  · rintro ⟨hne, response, text, doc, hout, hs, htext, hdoc, hset⟩
    exact ⟨text, ⟨response, ⟨hne, hout, hs⟩, htext⟩, doc, hdoc, hset⟩

/-- A request of the command that a command line calls among the commands of a reply. -/
def IsCommand (c : Client) (args : List String) (g : Globals) (reply : Reply) (r : Request) :
    Prop :=
  ∃ set command bound, c.Fetched g reply set ∧ c.parseCall set args = .ok (command, bound) ∧
    (c.dispatcher args).Builds command set.baseUrl bound r

/-- What an invocation does once the remote's health is checked. -/
def runCommand (c : Client) (args : List String) (g : Globals) : Action RunError Unit := do
  let set ← c.fetchCommands g
  match c.parseCall set args with
  | .error e => throw e
  | .ok (command, bound) =>
    ExceptT.adapt RunError.dispatch ((c.dispatcher args).execute command set.baseUrl bound)

theorem Fetched.unique {c : Client} {g : Globals} {r : Reply} {set set' : CommandSet}
    (h : c.Fetched g r set) (h' : c.Fetched g r set') : set' = set := by
  obtain ⟨_, _, _, hout, -, htext, hdoc, hset⟩ := h
  obtain ⟨_, _, _, hout', -, htext', hdoc', hset'⟩ := h'
  cases hout.symm.trans hout'
  cases htext.symm.trans htext'
  cases hdoc.symm.trans hdoc'
  cases hset.symm.trans hset'
  rfl

theorem runCommand_follows (c : Client) (args : List String) (g : Globals) (s : Session) :
    ∃ requests, Follows s [Request.IsGet (endpoint g.baseUrl g.specPath),
        c.IsCommand args g (s.reply 0)] requests (c.runCommand args g s).2 ∧
      (requests.length < 2 → (c.runCommand args g s).2.out = s.out) := by
  obtain ⟨requests, ha, ho, hr⟩ := c.fetchCommands_attempt g s
  unfold runCommand
  rw [bind_apply]
  generalize c.fetchCommands g s = fetched at ha ho hr ⊢
  rcases fetched with ⟨e | set, s₁⟩
  · -- without commands nothing can be called
    refine ⟨requests, .only ha fun hne => ?_, fun _ => ho⟩
    rintro ⟨_, set, _, _, hset, -⟩
    exact nomatch (hr set).2 ⟨hne, hset⟩
  · obtain ⟨hne, hset⟩ := (hr set).1 rfl
    cases ha with
    | unsent => exact absurd rfl hne
    | @sent r _ hd hx =>
      dsimp only
      cases hcall : c.parseCall set args with
      | error e =>
        refine ⟨[r], .cons hd hx (.stop (.inr ?_) (SameRemote.exchange ⟨rfl, rfl, rfl⟩)),
          fun _ => ho⟩
        rintro ⟨_, set', _, _, hset', hcall', -⟩
        cases hset.unique hset'
        rw [hcall] at hcall'
        cases hcall'
      | ok called =>
        obtain ⟨command, bound⟩ := called
        obtain ⟨requests, ha', ho'⟩ :=
          (c.dispatcher args).execute_attempt command set.baseUrl bound s₁
        dsimp only [adapt_apply]
        refine ⟨r :: requests, .cons hd hx (.last (ha'.mono ?_ ?_)), fun hlt => ?_⟩
        · exact fun r' hbuilds => ⟨set, command, bound, hset, hcall, hbuilds⟩
        · rintro ⟨r', set', _, _, hset', hcall', hbuilds⟩
          cases hset.unique hset'
          cases hcall.symm.trans hcall'
          exact ⟨r', hbuilds⟩
        · rw [List.length_cons] at hlt
          exact (ho' (List.length_eq_zero_iff.1 (by omega))).trans ho

end Client

/-! ## Stages -/

/-- What a request of an invocation is for. -/
inductive Stage where
  /-- Learn whether the remote is healthy. -/
  | health
  /-- Fetch the document. -/
  | document
  /-- Run the command. -/
  | command
  deriving DecidableEq

/-- The stages that apply, in order. There is no check of the health under an empty path. -/
def Globals.stages (g : Globals) : List Stage :=
  (if g.healthPath = "" then [] else [.health]) ++ [.document, .command]

/-- The reply to a stage of an invocation that starts at `s`. -/
def Globals.replyTo (g : Globals) (s : Session) (stage : Stage) : Reply :=
  s.reply (g.stages.idxOf stage)

namespace Client

/-- The requests that are due at a stage, given the replies to the stages before it. -/
def Due (c : Client) (args : List String) (g : Globals) (s : Session) :
    Stage → Request → Prop
  | .health, r => r.IsGet (endpoint g.baseUrl g.healthPath)
  | .document, r =>
    (Stage.health ∈ g.stages → (g.replyTo s .health).Succeeds) ∧
      r.IsGet (endpoint g.baseUrl g.specPath)
  | .command, r => c.IsCommand args g (g.replyTo s .document) r

theorem run_eq (c : Client) {args : List String} {g : Globals}
    (h : c.config.parseGlobals c.processEnv args = .ok g) :
    c.run args = c.checkHealth g >>= fun _ => c.runCommand args g := by
  unfold run
  rw [h]
  rfl

theorem map_due_of_empty (c : Client) (args : List String) {g : Globals} (h : g.healthPath = "")
    (s : Session) :
    g.stages.map (c.Due args g s) =
      [Request.IsGet (endpoint g.baseUrl g.specPath), c.IsCommand args g (s.reply 0)] := by
  have hstages : g.stages = [.document, .command] := by simp [Globals.stages, h]
  have hdocument : c.Due args g s .document = Request.IsGet (endpoint g.baseUrl g.specPath) := by
    funext r
    simp [Due, hstages]
  have hcommand : c.Due args g s .command = c.IsCommand args g (s.reply 0) := by
    funext r
    simp [Due, Globals.replyTo, hstages]
  rw [hstages, List.map_cons, List.map_cons, List.map_nil, hdocument, hcommand]

theorem map_due_of_ne_empty (c : Client) (args : List String) {g : Globals} (h : g.healthPath ≠ "")
    (s : Session) :
    g.stages.map (c.Due args g s) =
      [Request.IsGet (endpoint g.baseUrl g.healthPath),
        fun r => (s.reply 0).Succeeds ∧ r.IsGet (endpoint g.baseUrl g.specPath),
        c.IsCommand args g (s.reply 1)] := by
  have hstages : g.stages = [.health, .document, .command] := by simp [Globals.stages, h]
  have hdocument : c.Due args g s .document =
      fun r => (s.reply 0).Succeeds ∧ r.IsGet (endpoint g.baseUrl g.specPath) := by
    funext r
    simp [Due, Globals.replyTo, hstages]
  have hcommand : c.Due args g s .command = c.IsCommand args g (s.reply 1) := by
    funext r
    have hidx : [Stage.health, .document, .command].idxOf .document = 1 := rfl
    simp only [Due, Globals.replyTo, hstages, hidx]
  rw [hstages, List.map_cons, List.map_cons, List.map_cons, List.map_nil, hdocument, hcommand]
  rfl

theorem length_stages (g : Globals) :
    g.stages.length = if g.healthPath = "" then 2 else 3 := by
  by_cases h : g.healthPath = "" <;> simp [Globals.stages, h]

/-- An invocation sends what is due at its stages, in turn, and writes to its output only after
the last of them. -/
theorem run_follows (c : Client) {args : List String} {g : Globals}
    (h : c.config.parseGlobals c.processEnv args = .ok g) (s : Session) :
    ∃ requests, Follows s (g.stages.map (c.Due args g s)) requests (c.run args s).2 ∧
      (requests.length < g.stages.length → (c.run args s).2.out = s.out) := by
  rw [c.run_eq h, length_stages]
  by_cases hpath : g.healthPath = ""
  · rw [bind_of_ok (c.checkHealth_of_empty hpath s), c.map_due_of_empty args hpath, if_pos hpath]
    exact c.runCommand_follows args g s
  · rw [c.map_due_of_ne_empty args hpath, if_neg hpath]
    obtain ⟨requests, ha, ho, hr⟩ := c.checkHealth_attempt hpath s
    rcases hchecked : c.checkHealth g s with ⟨e | ⟨⟩, s₁⟩ <;> rw [hchecked] at ha ho hr
    · rw [bind_of_error hchecked]
      refine ⟨requests, .only ha fun hne => ?_, fun _ => ho⟩
      rintro ⟨r, hsucceeds, -⟩
      exact nomatch hr.2 ⟨hne, hsucceeds⟩
    · rw [bind_of_ok hchecked]
      obtain ⟨hne, hsucceeds⟩ := hr.1 rfl
      cases ha with
      | unsent => exact absurd rfl hne
      | @sent r _ hd hx =>
        obtain ⟨requests, hf, ho'⟩ := c.runCommand_follows args g s₁
        refine ⟨r :: requests, .cons hd hx ?_, fun hlt => ?_⟩
        · have hreply : s₁.reply 0 = s.reply 1 := hx.reply 0
          simpa only [hsucceeds, true_and, hreply] using hf
        · rw [List.length_cons] at hlt
          exact (ho' (by omega)).trans ho

theorem run_of_error (c : Client) {args : List String}
    (h : c.config.parseGlobals c.processEnv args = .error e) (s : Session) :
    c.run args s = (.error (.arguments e), s) := by
  unfold run
  rw [h]
  rfl

end Client

/-! ## Histories -/

/-- What can become of a session. -/
inductive Happening where
  /-- An invocation with these arguments. -/
  | run (args : List String)
  /-- Somebody cancels the session. -/
  | cancel
  /-- The remote gets other replies to give, and the outputs are replaced. -/
  | prepare (replies : List Reply) (out err : Sink)

namespace Client

/-- The session after a happening. -/
def happen (c : Client) (s : Session) : Happening → Session
  | .run args => (c.run args s).2
  | .cancel => { s with cancelled := true }
  | .prepare replies out err => { s with replies, out, err }

/-- The session after a history, oldest happening first. -/
def after (c : Client) (history : List Happening) (s : Session) : Session :=
  history.foldl c.happen s

theorem run_exchange (c : Client) (args : List String) (s : Session) :
    ∃ requests, Exchange s requests (c.run args s).2 := by
  cases h : c.config.parseGlobals c.processEnv args with
  | error e =>
    rw [c.run_of_error h]
    exact ⟨[], SameRemote.exchange ⟨rfl, rfl, rfl⟩⟩
  | ok g =>
    obtain ⟨requests, hf, -⟩ := c.run_follows h s
    exact ⟨requests, hf.exchange⟩

/-- Nothing is sent once the session is cancelled, and it stays cancelled. -/
theorem happen_of_cancelled (c : Client) {s : Session} (h : s.cancelled = true) (x : Happening) :
    (c.happen s x).sent = s.sent ∧ (c.happen s x).cancelled = true := by
  cases x with
  | run args =>
    obtain ⟨requests, hx⟩ := c.run_exchange args s
    have hnil : requests = [] := by
      by_contra hne
      have := hx.allowed 0 (List.length_pos_iff.mpr hne)
      rw [cancelledAfter_zero, h] at this
      cases this
    subst hnil
    refine ⟨by simpa [happen] using hx.sent, ?_⟩
    rw [happen, hx.cancelled, List.length_nil, cancelledAfter_zero, h]
  | cancel => exact ⟨rfl, rfl⟩
  | prepare => exact ⟨rfl, h⟩

theorem sent_after_of_cancelled (c : Client) (history : List Happening) {s : Session}
    (h : s.cancelled = true) : (c.after history s).sent = s.sent := by
  induction history generalizing s with
  | nil => rfl
  | cons x history ih =>
    obtain ⟨hsent, hcancelled⟩ := c.happen_of_cancelled h x
    exact (ih hcancelled).trans hsent

/-- **The protocol of an invocation**, after any history. The requests it sends are due at its
stages, in turn; the next stage is missing only if the session is cancelled or nothing is due
there; nothing is sent after a cancellation, and nothing is written to the output unless the
command's request is sent. A line whose global arguments cannot be read sends nothing. -/
theorem requests_follow_stages (c : Client) (history : List Happening) (start : Session)
    (args : List String) :
    let s := c.after history start
    let s' := (c.run args s).2
    ∃ requests, s'.sent = s.sent ++ requests ∧
      (match c.config.parseGlobals c.processEnv args with
        | .error _ => requests = [] ∧ s'.out = s.out
        | .ok g =>
          List.Forall₂ (c.Due args g s) (g.stages.take requests.length) requests ∧
          (∀ stage, g.stages[requests.length]? = some stage →
            s'.cancelled = true ∨ ¬∃ r, c.Due args g s stage r) ∧
          (Stage.command ∉ g.stages.take requests.length → s'.out = s.out)) ∧
      (∀ i < requests.length, s.cancelledAfter i = false) ∧
      s'.cancelled = s.cancelledAfter requests.length ∧
      ∀ later, s'.cancelled = true → (c.after later s').sent = s'.sent := by
  intro s s'
  have hlater : ∀ later, s'.cancelled = true → (c.after later s').sent = s'.sent :=
    fun later h => c.sent_after_of_cancelled later h
  cases h : c.config.parseGlobals c.processEnv args with
  | error e =>
    have hs' : s' = s := congrArg Prod.snd (c.run_of_error h s)
    refine ⟨[], ?_, ⟨rfl, ?_⟩, nofun, ?_, hlater⟩ <;> rw [hs']
    · rw [List.append_nil]
    · rw [List.length_nil, cancelledAfter_zero]
  | ok g =>
    obtain ⟨requests, hf, ho⟩ := c.run_follows h s
    have hcancelled := hf.exchange.cancelled
    refine ⟨requests, hf.exchange.sent, ⟨?_, fun stage hstage => ?_, fun hno => ho ?_⟩,
      hf.exchange.allowed, hcancelled, hlater⟩
    · have := hf.isDue
      rw [← List.map_take, List.forall₂_map_left_iff] at this
      exact this
    · rw [hcancelled]
      exact hf.stops _ (by simp [hstage])
    · by_contra hle
      rw [List.take_of_length_le (Nat.le_of_not_lt hle)] at hno
      exact hno (by simp [Globals.stages])

end Client
end ApiCli

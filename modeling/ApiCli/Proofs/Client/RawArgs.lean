import ApiCli.Proofs.Client.Protocol
import ApiCli.Proofs.Dict

/-!
# The command line in a request

A client may send the command line along in a field of the command's request. Two runs are
compared here, one of a client that does and one of a client that does not.

* `Headers.orInsert` puts a field where none of its name is; everything that is done to fields
  afterwards is done alike (`inject_orInsert`, `headers_sending`).
* `Client.prepareCall` is an invocation up to its command, which never looks at the choice.
* `Client.Composes`: an invocation gets as far as the fields of the command's request.

**Bookkeeping** (`raw_args_bookkeeping`): if the line can travel in a field, or is never put into
one, the two runs differ in that field only. If it cannot, the client that sends it along fails.
-/

namespace ApiCli
open Session ApiCli.Action

/-! ## A field more -/

namespace Headers

variable {h : Headers} {key value : String}

/-- The fields with one more, unless its name is in use. -/
def orInsert (h : Headers) (key value : String) : Headers :=
  if h.contains key then h else h.insert key value

theorem get?_orInsert (h : Headers) (key value other : String) :
    (h.orInsert key value).get? other =
      if key = other then some ((h.get? key).getD value) else h.get? other := by
  unfold orInsert Dict.contains
  split
  · next hused =>
    obtain ⟨v, hv⟩ := Option.isSome_iff_exists.1 hused
    split
    · next heq => rw [← heq, hv, Option.getD_some]
    · rfl
  · next hfree =>
    rw [Dict.get?_insert]
    rw [Option.not_isSome_iff_eq_none] at hfree
    rw [hfree, Option.getD_none]

theorem orInsert_of_none (hfree : h.get? key = none) (value : String) :
    h.orInsert key value = h.insert key value := by
  simp [orInsert, Dict.contains, hfree]

/-- Another field may as well be put before. -/
theorem insert_orInsert (h : Headers) (key value name v : String) :
    (h.orInsert key value).insert name v = orInsert (h.insert name v) key value := by
  apply Dict.ext_get?
  intro other
  rw [Dict.get?_insert, get?_orInsert, get?_orInsert, Dict.get?_insert, Dict.get?_insert]
  grind

theorem put?_orInsert (h : Headers) (key value name v : String) :
    (h.orInsert key value).put? name v = (h.put? name v).map (orInsert · key value) := by
  unfold put?
  split
  · split
    · rw [insert_orInsert]
      rfl
    · rfl
  · rfl

end Headers

theorem inject_orInsert (span : Span) (h : Headers) (key value : String) :
    (span.inject (h.orInsert key value)).value = (span.inject h).value.orInsert key value ∧
      (span.inject (h.orInsert key value)).log = (span.inject h).log := by
  unfold Span.inject
  cases span.context with
  | none => exact ⟨rfl, rfl⟩
  | some context =>
    dsimp only
    rw [Headers.put?_orInsert]
    cases h.put? traceparent context.headerValue <;> exact ⟨rfl, rfl⟩

/-- The request with a command line in its field, unless it has such a field. -/
def Request.withRawArgs (line : String) (r : Request) : Request :=
  { r with headers := r.headers.orInsert rawArgsHeader line }

/-! ## Requests of a command -/

namespace Dispatcher

variable {d : Dispatcher} {c : Command} {baseUrl line : String} {bound : Dict Bound} {span : Span}

/-- The same with a command line to send along. -/
def sending (d : Dispatcher) (line : String) : Dispatcher := { d with rawArgs := some line }

theorem putHeader_orInsert (h : Headers) (key value name v : String) :
    putHeader (h.orInsert key value) name v =
      (putHeader h name v).map (Headers.orInsert · key value) := by
  unfold putHeader
  rw [Headers.put?_orInsert]
  cases h.put? name v <;> rfl

theorem foldlM_putHeader_orInsert {α : Type} (pair : α → String × String) (l : List α)
    (h : Headers) (key value : String) :
    l.foldlM (fun h a => putHeader h (pair a).1 (pair a).2) (h.orInsert key value) =
      (l.foldlM (fun h a => putHeader h (pair a).1 (pair a).2) h).map
        (Headers.orInsert · key value) := by
  induction l generalizing h with
  | nil => rfl
  | cons a l ih =>
    rw [List.foldlM_cons, List.foldlM_cons, putHeader_orInsert]
    cases putHeader h (pair a).1 (pair a).2 with
    | error e => rfl
    | ok h' => exact ih h'

/-- The fixed fields, if the user agent can travel. -/
theorem fixedHeaders_of_none (hd : d.rawArgs = none) :
    d.fixedHeaders = if Headers.isValue d.userAgent = true
      then .ok ((Headers.standard "text/plain").insert "user-agent" d.userAgent)
      else .error (.invalidHeader "user-agent") := by
  have hname : Headers.name? "user-agent" = some "user-agent" := by decide
  unfold fixedHeaders putHeader Headers.put?
  rw [hd, hname]
  dsimp only
  by_cases hagent : Headers.isValue d.userAgent = true
  · rw [if_pos hagent, if_pos hagent]
    rfl
  · rw [if_neg hagent, if_neg hagent]
    rfl

theorem fixedHeaders_sending (hd : d.rawArgs = none) (line : String) :
    (d.sending line).fixedHeaders =
      d.fixedHeaders.bind fun fixed => putHeader fixed rawArgsHeader line := by
  unfold fixedHeaders
  rw [hd]
  change (putHeader (Headers.standard "text/plain") "user-agent" d.userAgent).bind _ = _
  cases putHeader (Headers.standard "text/plain") "user-agent" d.userAgent <;> rfl

/-- A line that can travel is one more field. -/
theorem headers_sending (hd : d.rawArgs = none) (hline : Headers.isValue line = true) :
    (d.sending line).headers c bound =
      (d.headers c bound).map (Headers.orInsert · rawArgsHeader line) := by
  have hname : Headers.name? rawArgsHeader = some rawArgsHeader := by decide
  unfold headers
  rw [fixedHeaders_sending hd, fixedHeaders_of_none hd]
  split
  · have hfree : ((Headers.standard "text/plain").insert "user-agent" d.userAgent).get?
        rawArgsHeader = none := by
      rw [Dict.get?_insert, if_neg (by decide)]
      decide
    have hput : putHeader ((Headers.standard "text/plain").insert "user-agent" d.userAgent)
        rawArgsHeader line = .ok (Headers.orInsert ((Headers.standard "text/plain").insert
          "user-agent" d.userAgent) rawArgsHeader line) := by
      rw [Headers.orInsert_of_none hfree, putHeader, Headers.put?, hname]
      simp [hline]
    rw [Except.bind, hput]
    exact foldlM_putHeader_orInsert (fun s : Flag × Bound => (s.1.paramName, s.2.joined)) _ _ _ _
  · rfl

/-- A line that cannot travel is reported, unless the user agent is. -/
theorem headers_sending_of_not_isValue (hd : d.rawArgs = none)
    (hline : Headers.isValue line = false) :
    (d.sending line).headers c bound =
      if Headers.isValue d.userAgent = true then .error (.invalidHeader rawArgsHeader)
      else d.headers c bound := by
  have hname : Headers.name? rawArgsHeader = some rawArgsHeader := by decide
  have hput (fixed : Headers) :
      putHeader fixed rawArgsHeader line = .error (.invalidHeader rawArgsHeader) := by
    rw [putHeader, Headers.put?, hname]
    simp [hline]
  unfold headers
  rw [fixedHeaders_sending hd, fixedHeaders_of_none hd]
  split
  · rw [Except.bind, hput]
    rfl
  · rfl

/-- Whatever is noted while a request is built is noted about its span. -/
theorem buildRequest_log (d : Dispatcher) (c : Command) (baseUrl : String) (bound : Dict Bound)
    (span : Span) :
    (d.buildRequest c baseUrl bound span).run.log =
      match (requestUrl c baseUrl bound).bind fun _ => d.headers c bound with
      | .error _ => []
      | .ok headers => (span.inject headers).log := by
  unfold buildRequest buildRequest.liftExcept
  cases requestUrl c baseUrl bound with
  | error e => rfl
  | ok url =>
    cases d.headers c bound with
    | error e => rfl
    | ok headers =>
      change [] ++ ([] ++ (((span.inject headers).log ++ []) ++ [])) = (span.inject headers).log
      simp

/-- A request is built in the same way if its fields are the same. -/
theorem buildRequest_congr {d' : Dispatcher} (h : d'.headers c bound = d.headers c bound) :
    d'.buildRequest c baseUrl bound span = d.buildRequest c baseUrl bound span := by
  unfold buildRequest
  rw [h]

/-- A line that can travel goes into the request. -/
theorem buildRequest_sending (hd : d.rawArgs = none) (hline : Headers.isValue line = true)
    (c : Command) (baseUrl : String) (bound : Dict Bound) (span : Span) :
    ((d.sending line).buildRequest c baseUrl bound span).run.value =
        (d.buildRequest c baseUrl bound span).run.value.map (Request.withRawArgs line) ∧
      ((d.sending line).buildRequest c baseUrl bound span).run.log =
        (d.buildRequest c baseUrl bound span).run.log := by
  rw [buildRequest_value, buildRequest_value, buildRequest_log, buildRequest_log,
    headers_sending hd hline]
  cases requestUrl c baseUrl bound with
  | error e => exact ⟨rfl, rfl⟩
  | ok url =>
    cases d.headers c bound with
    | error e => exact ⟨rfl, rfl⟩
    | ok headers =>
      obtain ⟨hvalue, hlog⟩ := inject_orInsert span headers rawArgsHeader line
      exact ⟨congrArg (fun h => Except.ok (Request.mk c.method url h)) hvalue, hlog⟩

/-! ## Running a command -/

/-- Sending a line along that can travel changes the request and nothing else. -/
theorem execute_sending (hd : d.rawArgs = none) (hline : Headers.isValue line = true)
    (c : Command) (baseUrl : String) (bound : Dict Bound) (s : Session) :
    ∃ requests, (d.execute c baseUrl bound s).2.sent = s.sent ++ requests ∧
      requests.length ≤ 1 ∧
      (d.sending line).execute c baseUrl bound s = ((d.execute c baseUrl bound s).1,
        { (d.execute c baseUrl bound s).2 with
          sent := s.sent ++ requests.map (Request.withRawArgs line) }) := by
  obtain ⟨hvalue, hlog⟩ := buildRequest_sending hd hline c baseUrl bound (d.runSpan s)
  have hbefore : (d.sending line).beforeSend c baseUrl bound s =
      d.beforeSend c baseUrl bound s := by
    unfold beforeSend
    rw [← hlog]
    rfl
  have hspan : (d.sending line).runSpan s = d.runSpan s := rfl
  have hunsent : d.beforeSend c baseUrl bound s =
      { d.beforeSend c baseUrl bound s with sent := s.sent ++ [] } := by
    rw [List.append_nil]
    rfl
  rw [execute_apply, execute_apply, hbefore, hspan, hvalue]
  cases (d.buildRequest c baseUrl bound (d.runSpan s)).run.value with
  | error e => exact ⟨[], (List.append_nil _).symm, Nat.zero_le 1, congrArg (Prod.mk _) hunsent⟩
  | ok r =>
    dsimp only [Except.map]
    split
    · exact ⟨[], (List.append_nil _).symm, Nat.zero_le 1, congrArg (Prod.mk _) hunsent⟩
    · -- what follows the request does not look at it
      have hlocal := local_receive (s.reply 0).outcome
      exact ⟨[r], (hlocal.sameRemote _).sent, Nat.le_refl 1,
        hlocal.apply_sent ((d.beforeSend c baseUrl bound s).afterSend r)
          (s.sent ++ [r.withRawArgs line])⟩

theorem execute_congr {d' : Dispatcher} (htracer : d'.tracer = d.tracer)
    (hbuild : ∀ span, d'.buildRequest c baseUrl bound span = d.buildRequest c baseUrl bound span) :
    d'.execute c baseUrl bound = d.execute c baseUrl bound := by
  unfold execute
  rw [htracer]
  simp only [hbuild]

/-- A command gets as far as the fields of its request, and the user agent goes into one. -/
def Composes (d : Dispatcher) (c : Command) (baseUrl : String) (bound : Dict Bound) : Prop :=
  (∃ url, requestUrl c baseUrl bound = .ok url) ∧ Headers.isValue d.userAgent = true

/-- A line that cannot travel is reported before anything is sent. -/
theorem execute_sending_of_composes (hd : d.rawArgs = none) (hline : Headers.isValue line = false)
    (hcomposes : d.Composes c baseUrl bound) (s : Session) :
    (d.sending line).execute c baseUrl bound s =
      (.error (.invalidHeader rawArgsHeader), (d.sending line).beforeSend c baseUrl bound s) := by
  obtain ⟨⟨url, hurl⟩, hagent⟩ := hcomposes
  rw [execute_apply, buildRequest_value, hurl, headers_sending_of_not_isValue hd hline,
    if_pos hagent]
  rfl

/-- A command that gets no URL, or no field for the user agent, fails alike whether a line is sent
along. -/
theorem execute_sending_of_not_composes (hd : d.rawArgs = none)
    (hline : Headers.isValue line = false) (hcomposes : ¬d.Composes c baseUrl bound)
    (s : Session) :
    (d.sending line).execute c baseUrl bound s = d.execute c baseUrl bound s ∧
      (d.execute c baseUrl bound s).2.sent = s.sent := by
  cases hurl : requestUrl c baseUrl bound with
  | error e =>
    constructor
    · have hsame : (d.sending line).execute c baseUrl bound = d.execute c baseUrl bound := by
        refine execute_congr rfl fun span => ?_
        unfold buildRequest
        rw [hurl]
        rfl
      rw [hsame]
    · rw [execute_apply, buildRequest_value, hurl]
      rfl
  | ok url =>
    have hagent : ¬Headers.isValue d.userAgent = true := fun h => hcomposes ⟨⟨url, hurl⟩, h⟩
    constructor
    · have hsame : (d.sending line).execute c baseUrl bound = d.execute c baseUrl bound := by
        refine execute_congr rfl fun span => buildRequest_congr ?_
        rw [headers_sending_of_not_isValue hd hline, if_neg hagent]
      rw [hsame]
    · rw [execute_apply, buildRequest_value, hurl, headers, fixedHeaders_of_none hd, if_neg hagent]
      rfl

/-- A command with a line sent along and without. The two differ in the field of the line only,
unless the line cannot travel and its field is reached. If it cannot travel and the field is not
reached, there is no request. -/
theorem execute_sending_cases (hd : d.rawArgs = none) (line : String) (c : Command)
    (baseUrl : String) (bound : Dict Bound) (s : Session) :
    ∃ requests, (d.execute c baseUrl bound s).2.sent = s.sent ++ requests ∧
      requests.length ≤ 1 ∧
      (Headers.isValue line = true ∨ ¬d.Composes c baseUrl bound →
        (d.sending line).execute c baseUrl bound s = ((d.execute c baseUrl bound s).1,
          { (d.execute c baseUrl bound s).2 with
            sent := s.sent ++ requests.map (Request.withRawArgs line) })) ∧
      (Headers.isValue line = false → ¬d.Composes c baseUrl bound → requests = []) ∧
      (Headers.isValue line = false → d.Composes c baseUrl bound →
        (d.sending line).execute c baseUrl bound s =
          (.error (.invalidHeader rawArgsHeader),
            (d.sending line).beforeSend c baseUrl bound s)) := by
  by_cases hline : Headers.isValue line = true
  · obtain ⟨requests, hsent, hone, hsending⟩ := execute_sending hd hline c baseUrl bound s
    have hnot : Headers.isValue line ≠ false := by simp [hline]
    exact ⟨requests, hsent, hone, fun _ => hsending, fun hfalse => absurd hfalse hnot,
      fun hfalse => absurd hfalse hnot⟩
  · rw [Bool.not_eq_true] at hline
    by_cases hcomposes : d.Composes c baseUrl bound
    · obtain ⟨requests, hattempt, -⟩ := d.execute_attempt c baseUrl bound s
      refine ⟨requests, hattempt.exchange.sent, hattempt.length_le_one, fun h => ?_,
        fun _ hnot => absurd hcomposes hnot, fun _ _ => ?_⟩
      · rcases h with h | h
        · rw [hline] at h
          cases h
        · exact absurd hcomposes h
      · exact execute_sending_of_composes hd hline hcomposes s
    · obtain ⟨hsame, hnone⟩ := execute_sending_of_not_composes hd hline hcomposes s
      refine ⟨[], hnone.trans (List.append_nil _).symm, Nat.zero_le 1, fun _ => ?_,
        fun _ _ => rfl, fun _ h => absurd h hcomposes⟩
      rw [hsame, List.map_nil, List.append_nil, ← hnone]
      rfl

end Dispatcher

/-! ## Invocations -/

namespace Client

/-- The client that sends the command line along, or not. -/
def sendingRawArgs (c : Client) (on : Bool) : Client :=
  { c with config := { c.config with sendRawArgs := on } }

/-- The dispatcher that sends no command line along. -/
def plainDispatcher (c : Client) : Dispatcher := ⟨c.tracer, c.config.name, none⟩

/-- The command that a command line calls among those of the remote, the URL that its paths are
below, and the values of its flags. -/
def fetchCall (c : Client) (args : List String) (g : Globals) :
    Action RunError (Command × String × Dict Bound) := do
  let set ← c.fetchCommands g
  match c.parseCall set args with
  | .error e => throw e
  | .ok (command, bound) => return (command, set.baseUrl, bound)

/-- An invocation up to its command. -/
def prepareCall (c : Client) (args : List String) :
    Action RunError (Command × String × Dict Bound) :=
  match c.config.parseGlobals c.processEnv args with
  | .error e => throw (.arguments e)
  | .ok g => do
    c.checkHealth g
    c.fetchCall args g

/-- An invocation gets as far as the fields of its command's request: all before them succeeds, and
so does the field of the user agent. -/
def Composes (c : Client) (args : List String) (s : Session) : Prop :=
  ∃ command baseUrl bound s₁ url, c.prepareCall args s = (.ok (command, baseUrl, bound), s₁) ∧
    Dispatcher.requestUrl command baseUrl bound = .ok url ∧ Headers.isValue c.config.name = true

/-- The stages of an invocation. There are none if its global arguments cannot be read. -/
def stages (c : Client) (args : List String) : List Stage :=
  match c.config.parseGlobals c.processEnv args with
  | .error _ => []
  | .ok g => g.stages

variable {c : Client} {args : List String} {s s' : Session}

theorem run_sendingRawArgs (c : Client) (on : Bool) (args : List String) (s : Session) :
    (c.sendingRawArgs on).run args s =
      match c.prepareCall args s with
      | (.error e, s') => (.error e, s')
      | (.ok (command, baseUrl, bound), s') =>
        ExceptT.adapt RunError.dispatch
          ((if on then c.plainDispatcher.sending (" ".intercalate args)
            else c.plainDispatcher).execute command baseUrl bound) s' := by
  have hhealth (g : Globals) : (c.sendingRawArgs on).checkHealth g = c.checkHealth g := rfl
  have hfetch (g : Globals) : (c.sendingRawArgs on).fetchCommands g = c.fetchCommands g := rfl
  have hcall (set : CommandSet) :
      (c.sendingRawArgs on).parseCall set args = c.parseCall set args := rfl
  have hdispatcher : (c.sendingRawArgs on).dispatcher args =
      if on then c.plainDispatcher.sending (" ".intercalate args) else c.plainDispatcher := by
    cases on <;> rfl
  unfold prepareCall
  cases hg : c.config.parseGlobals c.processEnv args with
  | error e =>
    rw [run_of_error (c.sendingRawArgs on) hg]
    rfl
  | ok g =>
    rw [run_eq (c.sendingRawArgs on) hg]
    unfold runCommand fetchCall
    rw [hhealth, hfetch, hdispatcher]
    simp only [hcall, bind_apply]
    rcases c.checkHealth g s with ⟨e | ⟨⟩, s₁⟩
    · rfl
    · dsimp only
      rcases c.fetchCommands g s₁ with ⟨e | set, s₂⟩
      · rfl
      · dsimp only
        rcases c.parseCall set args with e | ⟨command, bound⟩ <;> rfl

theorem fetchCall_sends (c : Client) (args : List String) (g : Globals) (s : Session) :
    ∃ requests, (c.fetchCall args g s).2.sent = s.sent ++ requests ∧ requests.length ≤ 1 ∧
      (∀ call, (c.fetchCall args g s).1 = .ok call → requests.length = 1) ∧
      (c.fetchCall args g s).2.out = s.out := by
  obtain ⟨requests, hattempt, hout, hok⟩ := c.fetchCommands_attempt g s
  have hone := hattempt.length_le_one
  have hsent := hattempt.exchange.sent
  unfold fetchCall
  rw [bind_apply]
  generalize c.fetchCommands g s = fetched at hout hok hsent ⊢
  rcases fetched with ⟨e | set, s₁⟩
  · exact ⟨requests, hsent, hone, fun _ h => (by cases h), hout⟩
  · have hall : requests.length = 1 :=
      Nat.le_antisymm hone (List.length_pos_iff.2 ((hok set).1 rfl).1)
    dsimp only
    cases c.parseCall set args with
    | error e => exact ⟨requests, hsent, hone, fun _ _ => hall, hout⟩
    | ok called => exact ⟨requests, hsent, hone, fun _ _ => hall, hout⟩

/-- Up to its command an invocation sends at most a request for each stage before the command's, and
one for each if it gets there. -/
theorem prepareCall_sends (c : Client) (args : List String) (s : Session) :
    ∃ requests, (c.prepareCall args s).2.sent = s.sent ++ requests ∧
      requests.length ≤ (c.stages args).idxOf .command ∧
      (∀ call, (c.prepareCall args s).1 = .ok call →
        requests.length = (c.stages args).idxOf .command ∧
          requests.length < (c.stages args).length) ∧
      (c.prepareCall args s).2.out = s.out := by
  unfold prepareCall stages
  cases c.config.parseGlobals c.processEnv args with
  | error e => exact ⟨[], (List.append_nil _).symm, Nat.zero_le _, fun _ h => (by cases h), rfl⟩
  | ok g =>
    dsimp only
    by_cases hpath : g.healthPath = ""
    · have hstages : g.stages = [.document, .command] := by simp [Globals.stages, hpath]
      rw [bind_of_ok (c.checkHealth_of_empty hpath s), hstages]
      obtain ⟨requests, hsent, hle, hok, hout⟩ := c.fetchCall_sends args g s
      refine ⟨requests, hsent, hle, fun call h => ?_, hout⟩
      rw [hok call h]
      decide
    · have hstages : g.stages = [.health, .document, .command] := by simp [Globals.stages, hpath]
      obtain ⟨first, hattempt, hout, hok⟩ := c.checkHealth_attempt hpath s
      have hone := hattempt.length_le_one
      have hfirst := hattempt.exchange.sent
      rw [hstages, bind_apply]
      generalize c.checkHealth g s = checked at hout hok hfirst ⊢
      rcases checked with ⟨e | ⟨⟩, s₁⟩
      · exact ⟨first, hfirst, Nat.le_trans hone (by decide), fun _ h => (by cases h), hout⟩
      · have hall : first.length = 1 :=
          Nat.le_antisymm hone (List.length_pos_iff.2 (hok.1 rfl).1)
        obtain ⟨requests, hsent, hle, hall', hout'⟩ := c.fetchCall_sends args g s₁
        dsimp only
        refine ⟨first ++ requests, ?_, ?_, fun call h => ?_, ?_⟩
        · rw [hsent, hfirst, List.append_assoc]
        · rw [List.length_append, hall]
          exact Nat.add_le_add_left hle 1
        · rw [List.length_append, hall, hall' call h]
          decide
        · rw [hout', hout]

/-- **Sending the command line along is bookkeeping** as long as the line can travel in a field. The
two runs end alike, write the same and send the same requests, but for the field of the line in the
request of the command; that field is added unless a parameter has its name. So it is with any line
if the invocation never gets as far as the fields of its command's request, and then there is no
such request. Otherwise the client that sends the line along fails there: it sends what comes
before, and writes nothing to its output. -/
theorem raw_args_bookkeeping (c : Client) (args : List String) (s : Session) :
    let line := " ".intercalate args
    let plain := (c.sendingRawArgs false).run args s
    let raw := (c.sendingRawArgs true).run args s
    let before := (c.stages args).idxOf .command
    ∃ requests, plain.2.sent = s.sent ++ requests ∧ requests.length ≤ (c.stages args).length ∧
      (Headers.isValue line = true ∨ ¬c.Composes args s →
        raw = (plain.1, { plain.2 with
          sent := s.sent ++ (requests.take before ++
            (requests.drop before).map (Request.withRawArgs line)) })) ∧
      (Headers.isValue line = false → ¬c.Composes args s → requests.drop before = []) ∧
      (Headers.isValue line = false → c.Composes args s →
        raw.1 = .error (.dispatch (.invalidHeader rawArgsHeader)) ∧
          raw.2.sent = s.sent ++ requests.take before ∧ raw.2.out = s.out) := by
  intro line plain raw before
  have hplain : plain = _ := c.run_sendingRawArgs false args s
  have hraw : raw = _ := c.run_sendingRawArgs true args s
  obtain ⟨first, hfirst, hle, hall, hout⟩ := c.prepareCall_sends args s
  have htake : first.take before = first := List.take_of_length_le hle
  have hdrop : first.drop before = [] := List.drop_of_length_le hle
  rcases hprepared : c.prepareCall args s with ⟨e | ⟨command, baseUrl, bound⟩, s₁⟩
  · -- both fail alike before their command
    rw [hprepared] at hplain hraw hfirst
    refine ⟨first, by rw [hplain]; exact hfirst, Nat.le_trans hle List.idxOf_le_length, fun _ => ?_,
      fun _ _ => hdrop, fun _ hcomposes => ?_⟩
    · rw [htake, hdrop, hraw, hplain, List.map_nil, List.append_nil, ← hfirst]
    · obtain ⟨_, _, _, _, _, hok, -⟩ := hcomposes
      rw [hprepared] at hok
      cases hok
  · rw [hprepared] at hplain hraw hfirst hall hout
    obtain ⟨hbefore, hlt⟩ := hall _ rfl
    have hplain : plain =
        ((c.plainDispatcher.execute command baseUrl bound s₁).1.mapError .dispatch,
          (c.plainDispatcher.execute command baseUrl bound s₁).2) := hplain
    have hraw : raw =
        (((c.plainDispatcher.sending line).execute command baseUrl bound s₁).1.mapError .dispatch,
          ((c.plainDispatcher.sending line).execute command baseUrl bound s₁).2) := hraw
    obtain ⟨more, hmore, hone, hsame, hnone, hfails⟩ := Dispatcher.execute_sending_cases
      (d := c.plainDispatcher) rfl line command baseUrl bound s₁
    have htakes : (first ++ more).take before = first := List.take_left' hbefore
    have hdrops : (first ++ more).drop before = more := List.drop_left' hbefore
    have hcomposed : c.plainDispatcher.Composes command baseUrl bound → c.Composes args s :=
      fun ⟨⟨url, hurl⟩, hagent⟩ => ⟨_, _, _, _, url, hprepared, hurl, hagent⟩
    refine ⟨first ++ more, ?_, ?_, fun h => ?_, fun hline hnot => ?_, fun hline hcomposes => ?_⟩
    · rw [hplain, hmore, hfirst, List.append_assoc]
    · rw [List.length_append]
      omega
    · have hsending := hsame (h.imp_right (mt hcomposed))
      rw [htakes, hdrops, hraw, hplain, hsending, hfirst, List.append_assoc]
    · rw [hdrops]
      exact hnone hline (mt hcomposed hnot)
    · obtain ⟨_, _, _, _, url, hok, hurl, hagent⟩ := hcomposes
      cases hprepared.symm.trans hok
      rw [htakes, hraw, hfails hline ⟨⟨url, hurl⟩, hagent⟩]
      exact ⟨rfl, hfirst, hout⟩

/-! ### A line that cannot travel -/

/-- A document whose command has a query parameter. -/
def queryDocument : String :=
  "\x7b\"paths\":\x7b\"/a\":\x7b\"get\":\x7b\"x-swagger-cmd\":\"c\",\"parameters\":[" ++
    "\x7b\"name\":\"q\",\"in\":\"query\",\"type\":\"string\"\x7d]\x7d\x7d\x7d\x7d"

def queryClient : Client :=
  ⟨Config.new "app" "" "http://h", .none, fun _ => none, fun _ => none⟩

/-- A session in which the remote gives the document to whoever asks first. -/
def querySession : Session :=
  { Session.start with replies := [⟨false, .ok ⟨200, ⟨queryDocument.toUTF8.toList, none⟩⟩⟩] }

/-- The line of an invocation with a space in a value can travel, and makes no difference. -/
theorem raw_args_bookkeeping_space :
    Headers.isValue (" ".intercalate ["app", "c", "--q=a b"]) = true ∧
      ((queryClient.sendingRawArgs true).run ["app", "c", "--q=a b"] querySession).2.sent.map
        (·.headers.get? "x-raw-args") = [none, some "app c --q=a b"] ∧
      ∃ requests, ((queryClient.sendingRawArgs false).run ["app", "c", "--q=a b"]
          querySession).2.sent = querySession.sent ++ requests ∧
        (queryClient.sendingRawArgs true).run ["app", "c", "--q=a b"] querySession =
          (((queryClient.sendingRawArgs false).run ["app", "c", "--q=a b"] querySession).1,
            { ((queryClient.sendingRawArgs false).run ["app", "c", "--q=a b"] querySession).2 with
              sent := querySession.sent ++ (requests.take 1 ++
                (requests.drop 1).map (Request.withRawArgs "app c --q=a b")) }) := by
  have hline : Headers.isValue (" ".intercalate ["app", "c", "--q=a b"]) = true := by decide
  obtain ⟨requests, hsent, -, hsame, -, -⟩ :=
    raw_args_bookkeeping queryClient ["app", "c", "--q=a b"] querySession
  exact ⟨hline, by decide +kernel, requests, hsent, hsame (.inl hline)⟩

/-- A line end in a value of the query: the client that sends the line along fails, and the request
that the other one sends is not sent. -/
theorem raw_args_change_outcome :
    ((queryClient.sendingRawArgs false).run ["app", "c", "--q=a\nb"] querySession).1 = .ok () ∧
      ((queryClient.sendingRawArgs true).run ["app", "c", "--q=a\nb"] querySession).1 =
        .error (.dispatch (.invalidHeader "x-raw-args")) ∧
      ((queryClient.sendingRawArgs false).run ["app", "c", "--q=a\nb"] querySession).2.sent.length =
        2 ∧
      ((queryClient.sendingRawArgs true).run ["app", "c", "--q=a\nb"] querySession).2.sent.length =
        1 := by
  decide +kernel

end Client
end ApiCli

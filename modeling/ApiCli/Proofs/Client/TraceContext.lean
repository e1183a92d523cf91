import ApiCli.Proofs.Client.Protocol
import ApiCli.Proofs.Client.Travel
import ApiCli.Proofs.Http.Header
import Mathlib.Data.List.Induction

/-!
# Trace context

Which trace context the requests of a client carry whose tracer has a trace of its own.

* `Request.CarriesContext`: a request has one field for the context, with one span in it.
* `Traced` says of two sessions which spans were started between them, and that the requests between
  them carry the first of these spans, in turn. `get_traced` and `execute_traced` are about one call
  for the remote, `run_traced` about an invocation: a call that sends nothing ends it.
* `Client.Sends`: an invocation of a history sent a request, in a call that started a span.
  `happen_sends` is the step of a history, `after_sends` the whole of it.
* The identifiers by number, `spanIdAfter`, are hexadecimal and no two are the same.

**Trace context** (`trace_context_intact`): over any history every request carries the span that was
started for it, and no other request carries the same.
-/

namespace ApiCli
open Session ApiCli.Action

variable {id sp name : String} {spanId : Nat → String} {headers : Headers}
  {c : Command} {bound : Dict Bound}

/-! ## The field of the context -/

/-- A text of hexadecimal digits. -/
def Text.IsHex (s : String) : Prop := ∀ c ∈ s.toList, (Text.hexDigit? c).isSome = true

/-- A request has one field for the trace context, in whatever letter case, and its value is a span
of a trace. -/
def Request.CarriesContext (r : Request) (traceId spanId : String) : Prop :=
  r.headers.fieldsNamed "traceparent" =
    [("traceparent", "00-" ++ traceId ++ "-" ++ spanId ++ "-01")]

theorem Headers.isValue_append (s t : String) :
    isValue (s ++ t) = (isValue s && isValue t) := by
  simp [isValue, String.toList_append, List.all_append]

theorem lt_of_isSome_hexDigit? {c : Char} (h : (Text.hexDigit? c).isSome = true) :
    c.toNat < 128 := by
  unfold Text.hexDigit? at h
  split at h
  · next hdigit => exact Nat.lt_of_le_of_lt (Char.isDigit_iff_toNat.1 hdigit).2 (by decide)
  · split at h
    · next hlower => exact Nat.lt_of_le_of_lt (UInt32.le_iff_toNat_le.1 hlower.2) (by decide)
    · split at h
      · next hupper => exact Nat.lt_of_le_of_lt (UInt32.le_iff_toNat_le.1 hupper.2) (by decide)
      · cases h

/-- Hexadecimal digits can travel in a field. -/
theorem Text.IsHex.isValue {s : String} (h : Text.IsHex s) : Headers.isValue s = true := by
  rw [Headers.isValue, List.all_eq_true]
  intro c hc
  have hdigit := h c hc
  obtain ⟨n, hn, rfl⟩ := Utf8.exists_ofNat (lt_of_isSome_hexDigit? hdigit)
  revert hdigit
  clear hc
  revert n
  decide

theorem isValue_headerValue (hid : Text.IsHex id) (hsp : Text.IsHex sp) :
    Headers.isValue (SpanContext.mk id sp).headerValue = true := by
  have hstart : Headers.isValue "00-" = true := by decide
  have hbetween : Headers.isValue "-" = true := by decide
  have hend : Headers.isValue "-01" = true := by decide
  simp only [SpanContext.headerValue, Headers.isValue_append, hid.isValue, hsp.isValue, hstart,
    hbetween, hend, Bool.and_self]

/-- The context of a span replaces whatever is in its field. -/
theorem carriesContext_inject (hheld : headers.HeldByName) (hid : Text.IsHex id)
    (hsp : Text.IsHex sp) (method : Method) (url : Url) :
    (Request.mk method url ((Span.mk name (some ⟨id, sp⟩)).inject headers).value).CarriesContext
      id sp := by
  have hname : Headers.name? traceparent = some traceparent := by decide
  have hput : headers.put? traceparent (SpanContext.mk id sp).headerValue =
      some (headers.insert traceparent (SpanContext.mk id sp).headerValue) := by
    rw [Headers.put?, hname]
    exact if_pos (isValue_headerValue hid hsp)
  have hinject : ((Span.mk name (some ⟨id, sp⟩)).inject headers).value =
      headers.insert traceparent (SpanContext.mk id sp).headerValue := by
    rw [Span.inject]
    simp only [hput]
    rfl
  rw [Request.CarriesContext, hinject]
  exact (hheld.insert hname _).fieldsNamed (Dict.get?_insert_self _ _ _)

theorem Remote.heldByName_headers (r : Remote) : r.headers.value.HeldByName := by
  unfold Remote.headers
  have hstandard := Headers.heldByName_standard "application/json"
  have hname : Headers.name? "user-agent" = some "user-agent" := by decide
  dsimp only [Headers.put?]
  rw [hname]
  dsimp only
  by_cases hvalue : Headers.isValue r.userAgent = true
  · rw [if_pos hvalue]
    exact hstandard.insert hname _
  · rw [if_neg hvalue]
    exact hstandard

namespace Dispatcher

theorem heldByName_putHeader {headers' : Headers} {value : String} (hheld : headers.HeldByName)
    (h : putHeader headers name value = .ok headers') : headers'.HeldByName := by
  obtain ⟨key, hkey, rfl⟩ := putHeader_eq_ok h
  exact hheld.insert hkey value

theorem heldByName_fixedHeaders {d : Dispatcher} (h : d.fixedHeaders = .ok headers) :
    headers.HeldByName := by
  unfold fixedHeaders at h
  obtain ⟨agent, hagent, h⟩ := Except.bind_eq_ok.1 h
  have hheld := heldByName_putHeader (Headers.heldByName_standard "text/plain") hagent
  split at h
  · exact Except.ok.inj h ▸ hheld
  · exact heldByName_putHeader hheld h

/-- The fields of parameters are held by name, as the fixed ones are. -/
theorem heldByName_headers {d : Dispatcher} (h : d.headers c bound = .ok headers) :
    headers.HeldByName := by
  obtain ⟨-, fixed, hfixed, hget⟩ := headers_eq_ok h
  intro key value hkey
  rw [hget, Option.or_eq_some_iff] at hkey
  rcases hkey with hlast | ⟨-, hkey⟩
  · obtain ⟨pair, hpair, -⟩ := Option.map_eq_some_iff.1 hlast
    exact Headers.name?_name? (by simpa using List.find?_some hpair)
  · exact heldByName_fixedHeaders hfixed key value hkey

end Dispatcher

/-! ## Calls for the remote -/

/-- Between `s` and `s'` spans of the names were started and the requests were sent. The requests
carry the first of these spans, in turn. -/
structure Session.Traced (id : String) (spanId : Nat → String) (s : Session) (names : List String)
    (requests : List Request) (s' : Session) : Prop where
  spans : s'.spans = s.spans ++ names
  sent : s'.sent = s.sent ++ requests
  length_le : requests.length ≤ names.length
  carries : ∀ i (r : Request), requests[i]? = some r →
    r.CarriesContext id (spanId (s.spans.length + i))

namespace Session.Traced

variable {s s₁ s' : Session} {names names' : List String} {requests requests' : List Request}

theorem nil (s : Session) : Traced id spanId s [] [] s where
  spans := (List.append_nil _).symm
  sent := (List.append_nil _).symm
  length_le := Nat.le_refl 0
  carries _ _ h := by cases h

/-- A call that sends nothing. -/
theorem unsent (hspans : s'.spans = s.spans ++ [name]) (hsent : s'.sent = s.sent) :
    Traced id spanId s [name] [] s' where
  spans := hspans
  sent := hsent.trans (List.append_nil _).symm
  length_le := Nat.zero_le _
  carries _ _ h := by cases h

/-- A call that sends a request. -/
theorem single {r : Request} (hspans : s'.spans = s.spans ++ [name])
    (hsent : s'.sent = s.sent ++ [r]) (hr : r.CarriesContext id (spanId s.spans.length)) :
    Traced id spanId s [name] [r] s' where
  spans := hspans
  sent := hsent
  length_le := Nat.le_refl 1
  carries i q hq := by
    cases i with
    | zero => exact Option.some.inj hq ▸ hr
    | succ i => cases hq

theorem frame (h : Traced id spanId s names requests s₁) (hspans : s'.spans = s₁.spans)
    (hsent : s'.sent = s₁.sent) : Traced id spanId s names requests s' where
  spans := hspans.trans h.spans
  sent := hsent.trans h.sent
  length_le := h.length_le
  carries := h.carries

/-- More calls, after calls that have all sent their requests. -/
theorem trans (h : Traced id spanId s names requests s₁) (hall : requests.length = names.length)
    (h' : Traced id spanId s₁ names' requests' s') :
    Traced id spanId s (names ++ names') (requests ++ requests') s' where
  spans := by rw [h'.spans, h.spans, List.append_assoc]
  sent := by rw [h'.sent, h.sent, List.append_assoc]
  length_le := by
    have := h'.length_le
    rw [List.length_append, List.length_append]
    omega
  carries i r hr := by
    by_cases hi : i < requests.length
    · rw [List.getElem?_append_left hi] at hr
      exact h.carries i r hr
    · rw [List.getElem?_append_right (Nat.le_of_not_lt hi)] at hr
      have hcarries := h'.carries _ r hr
      rw [h.spans, List.length_append, ← hall, Nat.add_assoc,
        Nat.add_sub_cancel' (Nat.le_of_not_lt hi)] at hcarries
      exact hcarries

end Session.Traced

section

variable (hid : Text.IsHex id) (hspan : ∀ n, Text.IsHex (spanId n))
include hid hspan

/-- Asking for a URL starts a span, which the request carries if it is sent. -/
theorem Remote.get_traced {r : Remote} (htracer : r.tracer = .trace id spanId) (name url : String)
    (s : Session) : ∃ requests, Traced id spanId s [name] requests (r.get name url s).2 ∧
      ∀ response, (r.get name url s).1 = .ok response → requests.length = 1 := by
  rw [get_apply]
  cases Url.parse url with
  | error e => exact ⟨[], .unsent rfl rfl, fun _ h => nomatch h⟩
  | ok parsed =>
    dsimp only
    split
    · exact ⟨[], .unsent rfl rfl, fun _ h => nomatch h⟩
    · refine ⟨_, .single rfl rfl ?_, fun _ _ => rfl⟩
      rw [spanRequest, htracer]
      exact carriesContext_inject r.heldByName_headers hid (hspan _) .get parsed

/-- Running a command starts a span, which the request carries if it is sent. -/
theorem Dispatcher.execute_traced {d : Dispatcher} (htracer : d.tracer = .trace id spanId)
    (c : Command) (baseUrl : String) (bound : Dict Bound) (s : Session) :
    ∃ requests, Traced id spanId s ["cli-run"] requests (d.execute c baseUrl bound s).2 := by
  rw [execute_apply]
  cases hbuild : (d.buildRequest c baseUrl bound (d.runSpan s)).run.value with
  | error e => exact ⟨[], .unsent rfl rfl⟩
  | ok r =>
    dsimp only
    split
    · exact ⟨[], .unsent rfl rfl⟩
    · have hlocal := local_receive (s.reply 0).outcome
      refine ⟨[r], .single ?_ ?_ ?_⟩
      · rw [hlocal.spans_eq]
        rfl
      · rw [(hlocal.sameRemote _).sent]
        rfl
      · obtain ⟨-, headers, hheaders, hr⟩ := buildRequest_eq_ok hbuild
        rw [runSpan, htracer] at hr
        obtain ⟨method, url, fields⟩ := r
        obtain rfl : fields = _ := hr
        exact carriesContext_inject (heldByName_headers hheaders) hid (hspan _) method url

/-! ## Invocations -/

/-- The name of the span that is started for a stage. -/
def Stage.spanName : Stage → String
  | .health => "health"
  | .document => "swagger"
  | .command => "cli-run"

namespace Client

variable {c : Client} (htracer : c.tracer = .trace id spanId)
include htracer

theorem checkHealth_traced {g : Globals} (hpath : g.healthPath ≠ "") (s : Session) :
    ∃ requests, Traced id spanId s ["health"] requests (c.checkHealth g s).2 ∧
      ((c.checkHealth g s).1 = .ok () → requests.length = 1) := by
  obtain ⟨err, log, happly⟩ := c.checkHealth_apply hpath s
  obtain ⟨requests, htraced, hall⟩ := Remote.get_traced hid hspan (r := c.remote) htracer "health"
    (endpoint g.baseUrl g.healthPath) s
  rw [happly]
  generalize c.remote.get "health" (endpoint g.baseUrl g.healthPath) s = got at htraced hall ⊢
  refine ⟨requests, htraced.frame rfl rfl, fun hok => ?_⟩
  obtain ⟨response, hresponse, -⟩ := Except.map_eq_ok.1 (Except.mapError_eq_ok.1 hok)
  exact hall response hresponse

theorem fetchCommands_traced (g : Globals) (s : Session) :
    ∃ requests, Traced id spanId s ["swagger"] requests (c.fetchCommands g s).2 ∧
      ∀ set, (c.fetchCommands g s).1 = .ok set → requests.length = 1 := by
  obtain ⟨log, happly⟩ := c.fetchCommands_apply g s
  obtain ⟨requests, htraced, hall⟩ := Remote.get_traced hid hspan (r := c.remote) htracer "swagger"
    (endpoint g.baseUrl g.specPath) s
  rw [happly, Remote.fetchDocument_apply]
  generalize c.remote.get "swagger" (endpoint g.baseUrl g.specPath) s = got at htraced hall ⊢
  refine ⟨requests, htraced.frame rfl rfl, fun set hok => ?_⟩
  change (((_ >>= _ : Except FetchError String).mapError _) >>= fun text =>
    _ >>= fun doc => _) = .ok set at hok
  simp only [Except.bind_eq_ok, Except.mapError_eq_ok] at hok
  obtain ⟨-, ⟨response, hresponse, -⟩, -⟩ := hok
  exact hall response hresponse

theorem runCommand_traced (args : List String) (g : Globals) (s : Session) :
    ∃ names requests, names <+: ["swagger", "cli-run"] ∧
      Traced id spanId s names requests (c.runCommand args g s).2 := by
  obtain ⟨requests, htraced, hall⟩ := fetchCommands_traced hid hspan htracer g s
  have hfirst : ["swagger"] <+: ["swagger", "cli-run"] := List.prefix_append _ _
  unfold runCommand
  rw [bind_apply]
  generalize c.fetchCommands g s = fetched at htraced hall ⊢
  rcases fetched with ⟨e | set, s₁⟩
  · exact ⟨_, requests, hfirst, htraced⟩
  · dsimp only
    cases c.parseCall set args with
    | error e => exact ⟨_, requests, hfirst, htraced⟩
    | ok called =>
      obtain ⟨command, bound⟩ := called
      obtain ⟨more, hcommand⟩ := Dispatcher.execute_traced hid hspan (d := c.dispatcher args)
        htracer command set.baseUrl bound s₁
      exact ⟨_, _, List.prefix_rfl, htraced.trans (hall set rfl) hcommand⟩

/-- An invocation starts a span for each stage in turn, until it ends. -/
theorem run_traced {args : List String} {g : Globals}
    (h : c.config.parseGlobals c.processEnv args = .ok g) (s : Session) :
    ∃ names requests, names <+: g.stages.map Stage.spanName ∧
      Traced id spanId s names requests (c.run args s).2 := by
  rw [c.run_eq h]
  by_cases hpath : g.healthPath = ""
  · rw [bind_of_ok (c.checkHealth_of_empty hpath s), Globals.stages, if_pos hpath]
    exact runCommand_traced hid hspan htracer args g s
  · rw [Globals.stages, if_neg hpath]
    obtain ⟨requests, htraced, hall⟩ := checkHealth_traced hid hspan htracer hpath s
    rcases hchecked : c.checkHealth g s with ⟨e | ⟨⟩, s₁⟩ <;> rw [hchecked] at htraced hall
    · rw [bind_of_error hchecked]
      exact ⟨_, requests, List.prefix_append _ _, htraced⟩
    · rw [bind_of_ok hchecked]
      obtain ⟨names, more, hnames, hcommand⟩ := runCommand_traced hid hspan htracer args g s₁
      exact ⟨_, _, (List.prefix_append_right_inj ["health"]).2 hnames,
        htraced.trans (hall rfl) hcommand⟩

end Client

end

/-! ## Identifiers by number -/

namespace Text

/-- The number that hexadecimal digits stand for. -/
def hexNumber (digits : List Char) : Nat :=
  digits.foldl (fun n c => 16 * n + (hexDigit? c).getD 0) 0

theorem hexDigit?_digitChar : ∀ n < 16, hexDigit? n.digitChar = some n := by decide

theorem hexNumber_concat (digits : List Char) (c : Char) :
    hexNumber (digits ++ [c]) = 16 * hexNumber digits + (hexDigit? c).getD 0 := by
  simp [hexNumber]

theorem hexNumber_toDigits (n : Nat) :
    (∀ c ∈ Nat.toDigits 16 n, (hexDigit? c).isSome = true) ∧
      hexNumber (Nat.toDigits 16 n) = n := by
  induction n using Nat.strongRecOn with
  | ind n ih =>
    rw [Nat.toDigits_eq_if (by decide)]
    split
    · next hlt => simp [hexNumber, hexDigit?_digitChar n hlt]
    · next hle =>
      have hlast := hexDigit?_digitChar (n % 16) (Nat.mod_lt n (by decide))
      obtain ⟨hdigits, hnumber⟩ := ih (n / 16) (by omega)
      refine ⟨fun c hc => ?_, ?_⟩
      · rcases List.mem_append.1 hc with hc | hc
        · exact hdigits c hc
        · rw [List.mem_singleton.1 hc, hlast]
          rfl
      · rw [hexNumber_concat, hnumber, hlast, Option.getD_some]
        omega

/-- Zeros in front change nothing. -/
theorem hexNumber_zeros (count : Nat) (digits : List Char) :
    hexNumber (List.replicate count '0' ++ digits) = hexNumber digits := by
  have hzeros : (List.replicate count '0').foldl
      (fun n c => 16 * n + (hexDigit? c).getD 0) 0 = 0 := by
    induction count with
    | zero => rfl
    | succ count ih => exact ih
  rw [hexNumber, List.foldl_append, hzeros, hexNumber]

end Text

theorem isHex_spanIdAfter (n : Nat) : Text.IsHex (spanIdAfter n) := by
  intro c hc
  rw [spanIdAfter, String.toList_ofList] at hc
  rcases List.mem_append.1 hc with hc | hc
  · rw [List.eq_of_mem_replicate hc]
    rfl
  · exact (Text.hexNumber_toDigits _).1 c hc

/-- No two spans of a tracer that counts them have the same identifier. -/
theorem spanIdAfter_injective : Function.Injective spanIdAfter := by
  intro m n h
  have hnumber (k : Nat) : Text.hexNumber (spanIdAfter k).toList = k + 1 := by
    rw [spanIdAfter, String.toList_ofList, Text.hexNumber_zeros]
    exact (Text.hexNumber_toDigits _).2
  have hmn := hnumber m
  rw [h, hnumber n] at hmn
  exact (Nat.succ.inj hmn).symm

/-! ## Histories -/

namespace Client

variable {c : Client} {history : List Happening} {start : Session} {n : Nat} {r : Request}

/-- In some invocation of a history a request was due at a stage, and the span of that number was
started for the stage. -/
def Sends (c : Client) (history : List Happening) (start : Session) (n : Nat) (r : Request) :
    Prop :=
  ∃ before args g i stage, before ++ [.run args] <+: history ∧
    c.config.parseGlobals c.processEnv args = .ok g ∧
    g.stages[i]? = some stage ∧ c.Due args g (c.after before start) stage r ∧
    n = (c.after before start).spans.length + i ∧
    (c.after history start).spans[n]? = some stage.spanName

theorem after_concat (c : Client) (history : List Happening) (x : Happening) (start : Session) :
    c.after (history ++ [x]) start = c.happen (c.after history start) x :=
  List.foldl_concat _ _ _ _

theorem Sends.lt_length (h : c.Sends history start n r) :
    n < (c.after history start).spans.length := by
  obtain ⟨_, _, _, _, _, _, _, _, _, _, hspan⟩ := h
  exact (List.getElem?_eq_some_iff.1 hspan).1

/-- Spans of different numbers give different contexts. -/
theorem contexts_ne {numbers : List Nat} {requests : List Request}
    (hfresh : Function.Injective spanId) (hrising : numbers.Pairwise (· < ·))
    (hall : List.Forall₂ (fun n r => r.CarriesContext id (spanId n)) numbers requests) :
    requests.Pairwise fun r r' =>
      r.headers.fieldsNamed "traceparent" ≠ r'.headers.fieldsNamed "traceparent" := by
  rw [List.pairwise_iff_getElem]
  intro i j hi hj hij hsame
  have hi' : i < numbers.length := hall.length_eq ▸ hi
  have hj' : j < numbers.length := hall.length_eq ▸ hj
  have hfirst := hall.get hi' hi
  have hsecond := hall.get hj' hj
  have hnumbers := List.pairwise_iff_getElem.1 hrising i j hi' hj' hij
  simp only [List.get_eq_getElem] at hfirst hsecond
  rw [Request.CarriesContext, hsame, hsecond] at hfirst
  simp only [List.cons.injEq, Prod.mk.injEq, and_true, true_and, String.append_left_inj,
    String.append_right_inj] at hfirst
  exact absurd (hfresh hfirst) (Nat.ne_of_gt hnumbers)

/-- What was sent stays sent when something more happens. -/
theorem Sends.concat {x : Happening} {names : List String}
    (hspans : (c.happen (c.after history start) x).spans = (c.after history start).spans ++ names)
    (h : c.Sends history start n r) : c.Sends (history ++ [x]) start n r := by
  obtain ⟨before, args, g, i, stage, hprefix, hg, hstage, hdue, hn, hspan⟩ := h
  refine ⟨before, args, g, i, stage, hprefix.trans (List.prefix_append _ _), hg, hstage, hdue, hn,
    ?_⟩
  rw [c.after_concat, hspans, List.getElem?_append_left (List.getElem?_eq_some_iff.1 hspan).1]
  exact hspan

section

variable (hid : Text.IsHex id) (hspan : ∀ n, Text.IsHex (spanId n))
  (htracer : c.tracer = .trace id spanId)
include hid hspan htracer

/-- The requests of an invocation carry, in turn, the spans of the stages that they are due at. -/
theorem run_sends {args : List String} {g : Globals}
    (h : c.config.parseGlobals c.processEnv args = .ok g) (s : Session) :
    ∃ names requests, (c.run args s).2.spans = s.spans ++ names ∧
      (c.run args s).2.sent = s.sent ++ requests ∧
      ∀ i (r : Request), requests[i]? = some r →
        r.CarriesContext id (spanId (s.spans.length + i)) ∧
        ∃ stage, g.stages[i]? = some stage ∧ c.Due args g s stage r ∧
          (c.run args s).2.spans[s.spans.length + i]? = some stage.spanName := by
  obtain ⟨names, requests, ⟨rest, hrest⟩, htraced⟩ := run_traced hid hspan htracer h s
  obtain ⟨requests', hfollows, -⟩ := c.run_follows h s
  obtain rfl := List.append_cancel_left (hfollows.exchange.sent.symm.trans htraced.sent)
  have hdue := hfollows.isDue
  rw [← List.map_take, List.forall₂_map_left_iff] at hdue
  refine ⟨names, requests', htraced.spans, htraced.sent, fun i r hr => ?_⟩
  obtain ⟨hi, hget⟩ := List.getElem?_eq_some_iff.1 hr
  have hname : i < names.length := Nat.lt_of_lt_of_le hi htraced.length_le
  have hstages : g.stages[i]?.map Stage.spanName = names[i]? := by
    rw [← List.getElem?_map, ← hrest, List.getElem?_append_left hname]
  obtain ⟨stage, hstage, hstageName⟩ :=
    Option.map_eq_some_iff.1 (hstages.trans (List.getElem?_eq_getElem hname))
  refine ⟨htraced.carries i r hr, stage, hstage, ?_, ?_⟩
  · have htake : i < (g.stages.take requests'.length).length := by
      rw [hdue.length_eq]
      exact hi
    have hboth := hdue.get htake hi
    simp only [List.get_eq_getElem, List.getElem_take, hget] at hboth
    rwa [(List.getElem?_eq_some_iff.1 hstage).2] at hboth
  · rw [htraced.spans, List.getElem?_append_right (Nat.le_add_right _ _), Nat.add_sub_cancel_left,
      List.getElem?_eq_getElem hname, hstageName]

/-- A happening starts the next spans, and its requests carry some of them, in turn. -/
theorem happen_sends (history : List Happening) (start : Session) (x : Happening) :
    ∃ names requests, (c.happen (c.after history start) x).spans =
        (c.after history start).spans ++ names ∧
      (c.happen (c.after history start) x).sent = (c.after history start).sent ++ requests ∧
      List.Forall₂ (fun n r => c.Sends (history ++ [x]) start n r ∧
          r.CarriesContext id (spanId n))
        (List.range' (c.after history start).spans.length requests.length) requests := by
  cases x with
  | cancel => exact ⟨[], [], (List.append_nil _).symm, (List.append_nil _).symm, .nil⟩
  | prepare => exact ⟨[], [], (List.append_nil _).symm, (List.append_nil _).symm, .nil⟩
  | run args =>
    cases hg : c.config.parseGlobals c.processEnv args with
    | error e =>
      rw [happen, c.run_of_error hg]
      exact ⟨[], [], (List.append_nil _).symm, (List.append_nil _).symm, .nil⟩
    | ok g =>
      obtain ⟨names, requests, hspans, hsent, hall⟩ :=
        run_sends hid hspan htracer hg (c.after history start)
      refine ⟨names, requests, hspans, hsent, List.forall₂_iff_get.2 ⟨?_, fun i _ hi => ?_⟩⟩
      · rw [List.length_range']
      · obtain ⟨hcarries, stage, hstage, hdue, hname⟩ := hall i _ (List.getElem?_eq_getElem hi)
        simp only [List.get_eq_getElem, List.getElem_range', Nat.one_mul]
        refine ⟨⟨history, args, g, i, stage, List.prefix_rfl, hg, hstage, hdue, rfl, ?_⟩, hcarries⟩
        rw [c.after_concat]
        exact hname

/-- The numbers of the spans that requests carry rise over a history. -/
theorem after_sends (history : List Happening) (start : Session) :
    ∃ requests numbers, (c.after history start).sent = start.sent ++ requests ∧
      numbers.Pairwise (· < ·) ∧
      List.Forall₂ (fun n r => c.Sends history start n r ∧ r.CarriesContext id (spanId n))
        numbers requests := by
  induction history using List.reverseRecOn with
  | nil => exact ⟨[], [], (List.append_nil _).symm, .nil, .nil⟩
  | append_singleton history x ih =>
    obtain ⟨requests, numbers, hsent, hrising, hall⟩ := ih
    obtain ⟨names, more, hspans, hmore, hnew⟩ := happen_sends hid hspan htracer history start x
    refine ⟨requests ++ more,
      numbers ++ List.range' (c.after history start).spans.length more.length, ?_, ?_, ?_⟩
    · rw [c.after_concat, hmore, hsent, List.append_assoc]
    · refine List.pairwise_append.2 ⟨hrising, List.pairwise_lt_range', fun m hm n hn => ?_⟩
      -- the numbers so far are those of spans that were started before
      obtain ⟨i, hi, rfl⟩ := List.mem_iff_getElem.1 hm
      obtain ⟨hsends, -⟩ := hall.get hi (hall.length_eq ▸ hi)
      exact Nat.lt_of_lt_of_le hsends.lt_length (List.mem_range'_1.1 hn).1
    · exact List.rel_append (hall.imp fun _ _ h => ⟨h.1.concat hspans, h.2⟩) hnew

/-- **Trace context.** Over any history the requests carry, in the order in which they are sent,
the contexts of spans with rising numbers, each started for the stage that its request is due at.
Each request has one field for the context, whatever the document declares, and no two requests
have the same if no identifier comes twice. -/
theorem trace_context_intact (hfresh : Function.Injective spanId) (history : List Happening)
    (start : Session) :
    ∃ requests numbers, (c.after history start).sent = start.sent ++ requests ∧
      numbers.Pairwise (· < ·) ∧
      List.Forall₂ (fun n r => c.Sends history start n r ∧ r.CarriesContext id (spanId n))
        numbers requests ∧
      requests.Pairwise fun r r' =>
        r.headers.fieldsNamed "traceparent" ≠ r'.headers.fieldsNamed "traceparent" := by
  obtain ⟨requests, numbers, hsent, hrising, hall⟩ :=
    after_sends hid hspan htracer history start
  exact ⟨requests, numbers, hsent, hrising, hall,
    contexts_ne hfresh hrising (hall.imp fun _ _ h => h.2)⟩

end

/-- A client whose spans carry a trace. -/
def tracedClient : Client :=
  ⟨Config.new "app" "" "http://h", .trace "0af7651916cd43dd8448eb211c80319c", fun _ => none,
    fun _ => none⟩

/-- A document with a command whose header parameter has the name of the context's field. -/
def contextDocument : String :=
  "\x7b\"paths\":\x7b\"/a\":\x7b\"get\":\x7b\"x-swagger-cmd\":\"c\",\"parameters\":[" ++
    "\x7b\"name\":\"TraceParent\",\"in\":\"header\",\"type\":\"string\"\x7d]\x7d\x7d\x7d\x7d"

/-- An invocation that cannot ask, one that runs the command and one that gets no document. -/
def tracedHistory : List Happening :=
  [.prepare [⟨false, .ok ⟨200, ⟨contextDocument.toUTF8.toList, none⟩⟩⟩] ⟨[], none⟩ ⟨[], none⟩,
    .run ["app", "--base-url=nowhere", "c"],
    .run ["app", "c", "--trace-parent=mine"],
    .run ["app", "c"]]

/-- The first span stays unused, and the value for the context's field does not travel. -/
theorem trace_context_intact_traced :
    (tracedClient.after tracedHistory .start).sent.map (·.headers.fieldsNamed "traceparent") =
        [[("traceparent", "00-0af7651916cd43dd8448eb211c80319c-0000000000000002-01")],
          [("traceparent", "00-0af7651916cd43dd8448eb211c80319c-0000000000000003-01")],
          [("traceparent", "00-0af7651916cd43dd8448eb211c80319c-0000000000000004-01")]] ∧
      Function.Injective spanIdAfter ∧ (∀ n, Text.IsHex (spanIdAfter n)) ∧
      Text.IsHex "0af7651916cd43dd8448eb211c80319c" ∧
      ∃ requests numbers, (tracedClient.after tracedHistory .start).sent =
          Session.start.sent ++ requests ∧
        numbers.Pairwise (· < ·) ∧
        List.Forall₂ (fun n r => tracedClient.Sends tracedHistory .start n r ∧
          r.CarriesContext "0af7651916cd43dd8448eb211c80319c" (spanIdAfter n)) numbers requests ∧
        requests.Pairwise fun r r' =>
          r.headers.fieldsNamed "traceparent" ≠ r'.headers.fieldsNamed "traceparent" := by
  have hid : Text.IsHex "0af7651916cd43dd8448eb211c80319c" := List.all_eq_true.1 (by decide)
  exact ⟨by decide +kernel, spanIdAfter_injective, isHex_spanIdAfter, hid,
    trace_context_intact hid isHex_spanIdAfter rfl spanIdAfter_injective tracedHistory .start⟩

end Client
end ApiCli

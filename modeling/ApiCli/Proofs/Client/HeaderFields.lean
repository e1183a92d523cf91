import ApiCli.Proofs.Client.ExplicitValues
import ApiCli.Proofs.Client.Output
import ApiCli.Proofs.Client.TraceContext
import Mathlib.Data.List.Find

/-!
# Header fields of a command's request

Where each field of a request comes from. The fields are put one after the other; what prevails is
told here without that order, for names in any letter case.

* `Headers.isField`: a name and a value that may be put. `Dispatcher.illegal?` is the name of the
  first field of a command that may not.
* `Dispatcher.field?` is the value of a field by its origins: the trace context, else the last
  header flag of the name, else the fixed fields.

**Header fields** (`request_fields`): a command reports a field that may not be put and sends
nothing. Otherwise the fields of its request are those with an origin, each of them once.
-/

namespace ApiCli

variable {name key value : String} {headers headers' : Headers} {pairs : List (String × String)}
  {pair : String × String} {span : Span}
  {d : Dispatcher} {c : Command} {baseUrl : String} {bound : Dict Bound} {s : Session}

/-! ## Names in any letter case -/

namespace Headers

theorem eq_toLower_of_name? (h : name? name = some key) : key = name.toLower := by
  unfold name? at h
  dsimp only at h
  split at h
  · cases h
  · rw [← Option.some.inj h, ← String.toList_inj, String.toList_ofList]
    exact String.toList_map.symm

theorem HeldByName.toLower_eq (hheld : headers.HeldByName) (hget : headers.get? key = some value) :
    key.toLower = key :=
  (eq_toLower_of_name? (hheld key value hget)).symm

/-- No name is held twice, in whatever letter case. -/
theorem HeldByName.nodup_toLower (hheld : headers.HeldByName) :
    (headers.keys.map String.toLower).Nodup := by
  have hkeys : headers.keys.map String.toLower = headers.keys := by
    refine (List.map_congr_left fun key hkey => ?_).trans (List.map_id _)
    obtain ⟨value, hget⟩ := Dict.mem_keys_iff.1 hkey
    exact hheld.toLower_eq hget
  rw [hkeys]
  exact headers.nodup_keys

/-- A field is found under the lower-case form of its name. -/
theorem HeldByName.exists_get?_iff (hheld : headers.HeldByName) :
    (∃ key, key.toLower = name.toLower ∧ headers.get? key = some value) ↔
      headers.get? name.toLower = some value := by
  constructor
  · rintro ⟨key, hname, hget⟩
    rwa [← hname, hheld.toLower_eq hget]
  · intro hget
    exact ⟨name.toLower, hheld.toLower_eq hget, hget⟩

/-- Whether a name and a value make a field. -/
def isField (pair : String × String) : Bool := (name? pair.1).isSome && isValue pair.2

theorem isField_eq_false_iff :
    isField pair = false ↔ name? pair.1 = none ∨ isValue pair.2 = false := by
  rw [isField, Bool.and_eq_false_iff, Option.isSome_eq_false_iff, Option.isNone_iff_eq_none]

end Headers

/-! ## Putting fields -/

theorem putHeader_of_isField (h : Headers.isField pair = true) (headers : Headers) :
    ∃ headers', Dispatcher.putHeader headers pair.1 pair.2 = .ok headers' := by
  obtain ⟨hname, hvalue⟩ := Bool.and_eq_true_iff.1 h
  obtain ⟨key, hkey⟩ := Option.isSome_iff_exists.1 hname
  refine ⟨headers.insert key pair.2, ?_⟩
  rw [Dispatcher.putHeader, Headers.put?, hkey]
  simp only [hvalue, if_true]

theorem putHeader_of_not_isField (h : Headers.isField pair = false) (headers : Headers) :
    Dispatcher.putHeader headers pair.1 pair.2 = .error (.invalidHeader pair.1) := by
  rw [Dispatcher.putHeader, Headers.put?]
  rw [Headers.isField] at h
  cases hname : Headers.name? pair.1 with
  | none => rfl
  | some key =>
    have hvalue : Headers.isValue pair.2 = false := by simpa [hname] using h
    simp only [hvalue, Bool.false_eq_true, if_false]

/-- Pairs are put one after the other up to the first that makes no field, which is reported. -/
theorem foldlM_putHeader_cases (pairs : List (String × String)) (headers : Headers) :
    match pairs.find? fun p => !Headers.isField p with
    | some pair =>
      pairs.foldlM (fun headers p => Dispatcher.putHeader headers p.1 p.2) headers =
        .error (.invalidHeader pair.1)
    | none =>
      ∃ headers', pairs.foldlM (fun headers p => Dispatcher.putHeader headers p.1 p.2) headers =
        .ok headers' := by
  induction pairs generalizing headers with
  | nil => exact ⟨headers, rfl⟩
  | cons pair pairs ih =>
    rw [List.foldlM_cons]
    cases hfield : Headers.isField pair with
    | false =>
      rw [List.find?_cons_of_pos (by simp [hfield]), putHeader_of_not_isField hfield]
      rfl
    | true =>
      obtain ⟨headers₁, hput⟩ := putHeader_of_isField hfield headers
      rw [List.find?_cons_of_neg (by simp [hfield]), hput]
      exact ih headers₁

/-- The last pair of a name is found by its lower-case form, if all pairs have names. -/
theorem lastValue?_eq (hnames : ∀ p ∈ pairs, (Headers.name? p.1).isSome) (key : String) :
    lastValue? pairs key = (pairs.reverse.find? fun p => p.1.toLower = key).map (·.2) := by
  rw [lastValue?]
  congr 1
  refine List.find?_congr fun p hp => ?_
  obtain ⟨own, hown⟩ := Option.isSome_iff_exists.1 (hnames p (List.mem_reverse.1 hp))
  rw [hown, Headers.eq_toLower_of_name? hown]
  exact decide_eq_decide.2 (by rw [Option.some_inj])

/-- The trace context of a span that goes into a field, if there is one that can travel. -/
def Span.field? (span : Span) : Option String :=
  (span.context.map SpanContext.headerValue).filter Headers.isValue

theorem get?_inject_eq (span : Span) (headers : Headers) (key : String) :
    (span.inject headers).value.get? key =
      (if key = traceparent then span.field? else none).or (headers.get? key) := by
  by_cases hkey : key = traceparent
  · subst hkey
    rw [if_pos rfl, Span.field?]
    cases hcontext : span.context with
    | none => exact get?_inject span headers (.inl hcontext)
    | some context =>
      have hname : Headers.name? traceparent = some traceparent := by decide
      unfold Span.inject Headers.put?
      rw [hcontext, hname]
      cases hvalue : Headers.isValue context.headerValue with
      | false =>
        -- A context that cannot travel is noted, and the fields stay as they are.
        simp only [Option.map_some, Option.filter_some, hvalue, Bool.false_eq_true, if_false]
        rfl
      | true => simp [hvalue, Option.filter]
  · rw [if_neg hkey, Option.none_or, get?_inject span headers (.inr hkey)]

namespace Dispatcher

/-- The fields that a command puts to the standard ones, in turn. -/
def puts (d : Dispatcher) (c : Command) (bound : Dict Bound) : List (String × String) :=
  ("user-agent", d.userAgent) :: d.rawArgs.toList.map (rawArgsHeader, ·) ++ headerPairs c bound

theorem headers_eq_foldlM (d : Dispatcher) (c : Command) (bound : Dict Bound) :
    d.headers c bound = (d.puts c bound).foldlM (fun headers p => putHeader headers p.1 p.2)
      (Headers.standard "text/plain") := by
  unfold headers fixedHeaders puts
  rw [List.cons_append, List.foldlM_cons]
  have hpairs (fixed : Headers) :
      (sendable c bound .header).foldlM
        (fun headers f => putHeader headers f.1.paramName f.2.joined) fixed =
      (headerPairs c bound).foldlM (fun headers p => putHeader headers p.1 p.2) fixed := by
    rw [headerPairs, List.foldlM_map]
  simp only [hpairs]
  cases putHeader (Headers.standard "text/plain") "user-agent" d.userAgent with
  | error e => rfl
  | ok agent =>
    cases d.rawArgs with
    | none => rfl
    | some args =>
      rw [Option.toList_some, List.map_singleton, List.singleton_append, Except.ok_bind,
        Except.ok_bind, List.foldlM_cons]

/-- The name of the first field of a command that may not be put. -/
def illegal? (d : Dispatcher) (c : Command) (bound : Dict Bound) : Option String :=
  ((d.puts c bound).find? fun p => !Headers.isField p).map (·.1)

theorem headers_of_illegal (h : d.illegal? c bound = some name) :
    d.headers c bound = .error (.invalidHeader name) := by
  obtain ⟨pair, hpair, rfl⟩ := Option.map_eq_some_iff.1 h
  have hcases := foldlM_putHeader_cases (d.puts c bound) (Headers.standard "text/plain")
  rw [hpair] at hcases
  rw [headers_eq_foldlM]
  exact hcases

theorem exists_headers (h : d.illegal? c bound = none) :
    ∃ headers, d.headers c bound = .ok headers := by
  have hcases := foldlM_putHeader_cases (d.puts c bound) (Headers.standard "text/plain")
  rw [Option.map_eq_none_iff.1 h] at hcases
  rw [headers_eq_foldlM]
  exact hcases

/-- Some field may not be put: the user agent, the command line if it is sent along, or a header
flag that travels. -/
theorem exists_illegal?_iff :
    (∃ name, d.illegal? c bound = some name) ↔
      Headers.isValue d.userAgent = false ∨
      (∃ args, d.rawArgs = some args ∧ Headers.isValue args = false) ∨
      ∃ f b, (f, b) ∈ sendable c bound .header ∧
        (Headers.name? f.paramName = none ∨ Headers.isValue b.joined = false) := by
  have hagent : Headers.name? "user-agent" ≠ none := by decide
  have hraw : Headers.name? rawArgsHeader ≠ none := by decide
  rw [← Option.isSome_iff_exists, illegal?, Option.isSome_map, List.find?_isSome, puts]
  simp only [Bool.not_eq_true', Headers.isField_eq_false_iff]
  constructor
  · rintro ⟨pair, hpair, hillegal⟩
    rw [List.cons_append, List.mem_cons, List.mem_append, List.mem_map, headerPairs,
      List.mem_map] at hpair
    rcases hpair with rfl | ⟨args, hargs, rfl⟩ | ⟨⟨f, b⟩, hf, rfl⟩
    · exact .inl (hillegal.resolve_left hagent)
    · exact .inr (.inl ⟨args, Option.mem_toList.1 hargs, hillegal.resolve_left hraw⟩)
    · exact .inr (.inr ⟨f, b, hf, hillegal⟩)
  · rintro (hvalue | ⟨args, hargs, hvalue⟩ | ⟨f, b, hf, hillegal⟩)
    · exact ⟨_, List.mem_cons_self, .inr hvalue⟩
    · refine ⟨(rawArgsHeader, args), List.mem_append_left _ (List.mem_cons_of_mem _ ?_),
        .inr hvalue⟩
      exact List.mem_map_of_mem (Option.mem_toList.2 hargs)
    · exact ⟨_, List.mem_append_right _ (List.mem_map_of_mem hf), hillegal⟩

/-! ## Origins -/

/-- The fields that every request of a command has, the later ones first. -/
def fixedFields (d : Dispatcher) : List (String × String) :=
  d.rawArgs.toList.map (rawArgsHeader, ·) ++
    [("user-agent", d.userAgent), ("accept", "text/plain"), ("content-type", "application/json")]

theorem get?_fixedHeaders (h : d.fixedHeaders = .ok headers) (key : String) :
    headers.get? key = Dict.find key d.fixedFields := by
  have hagent : Headers.name? "user-agent" = some "user-agent" := by decide
  have hraw : Headers.name? rawArgsHeader = some rawArgsHeader := by decide
  unfold fixedHeaders at h
  obtain ⟨fixed, hfixed, h⟩ := Except.bind_eq_ok.1 h
  obtain ⟨_, hkey, rfl⟩ := putHeader_eq_ok hfixed
  obtain rfl := Option.some.inj (hagent.symm.trans hkey)
  unfold fixedFields
  cases hargs : d.rawArgs with
  | none =>
    rw [hargs] at h
    obtain rfl := Except.ok.inj h
    rw [Headers.standard, Dict.get?_insert, Dict.get?_insert, Dict.get?_insert, Dict.get?_empty]
    rfl
  | some args =>
    rw [hargs] at h
    obtain ⟨_, hkey, rfl⟩ := putHeader_eq_ok h
    obtain rfl := Option.some.inj (hraw.symm.trans hkey)
    rw [Headers.standard, Dict.get?_insert, Dict.get?_insert, Dict.get?_insert,
      Dict.get?_insert, Dict.get?_empty]
    rfl

/-- The value of the last header flag that travels and whose parameter has the name, up to letter
case. The name is in lower case. -/
def flagField? (c : Command) (bound : Dict Bound) (key : String) : Option String :=
  ((sendable c bound .header).reverse.find? fun f => f.1.paramName.toLower = key).map (·.2.joined)

/-- The value of a field by its origins: the trace context, else a header flag, else the fixed
fields. The name is in lower case. -/
def field? (d : Dispatcher) (c : Command) (bound : Dict Bound) (span : Span) (key : String) :
    Option String :=
  (if key = traceparent then span.field? else none).or
    ((flagField? c bound key).or (Dict.find key d.fixedFields))

theorem lastValue?_headerPairs_eq (hnames : ∀ p ∈ headerPairs c bound, (Headers.name? p.1).isSome)
    (key : String) : lastValue? (headerPairs c bound) key = flagField? c bound key := by
  rw [lastValue?_eq hnames, flagField?, headerPairs, ← List.map_reverse, List.find?_map,
    Option.map_map]
  rfl

theorem get?_inject_headers (h : d.headers c bound = .ok headers) (span : Span) (key : String) :
    (span.inject headers).value.get? key = d.field? c bound span key := by
  obtain ⟨hnames, fixed, hfixed, hget⟩ := headers_eq_ok h
  rw [get?_inject_eq, hget, lastValue?_headerPairs_eq hnames, get?_fixedHeaders hfixed, field?]

theorem heldByName_inject (hheld : headers.HeldByName) (span : Span) :
    (span.inject headers).value.HeldByName := by
  have hname : Headers.name? traceparent = some traceparent := by decide
  intro key value hget
  rw [get?_inject_eq, Option.or_eq_some_iff] at hget
  rcases hget with hcontext | ⟨-, hget⟩
  · obtain ⟨rfl, -⟩ := Option.ite_none_right_eq_some.1 hcontext
    exact hname
  · exact hheld key value hget

/-! ## The request -/

/-- An answer never makes a field illegal. -/
theorem receive_ne_invalidHeader (outcome : Except TransportError Response) (s : Session)
    (name : String) : (receive outcome s).1 ≠ .error (.invalidHeader name) := by
  intro h
  cases outcome with
  | error e => cases h
  | ok response =>
    have hprinted := congrArg Prod.fst (printed_receive response s)
    rcases printBody_fst response.body s.out s.err with hbody | hbody
    all_goals
      rw [printed, h, hbody] at hprinted
      cases hprinted

theorem execute_of_illegal (hurl : requestUrl c baseUrl bound = .ok url)
    (h : d.illegal? c bound = some name) :
    d.execute c baseUrl bound s =
      (.error (.invalidHeader name), d.beforeSend c baseUrl bound s) := by
  rw [execute_apply, buildRequest_value, hurl, headers_of_illegal h]
  rfl

theorem exists_buildRequest (hurl : requestUrl c baseUrl bound = .ok url)
    (h : d.illegal? c bound = none) (span : Span) :
    ∃ headers, d.headers c bound = .ok headers ∧
      (d.buildRequest c baseUrl bound span).run.value =
        .ok ⟨c.method, url, (span.inject headers).value⟩ := by
  obtain ⟨headers, hheaders⟩ := exists_headers h
  refine ⟨headers, hheaders, ?_⟩
  rw [buildRequest_value, hurl, hheaders]
  rfl

theorem execute_of_legal {r : Request}
    (hr : (d.buildRequest c baseUrl bound (d.runSpan s)).run.value = .ok r) :
    (∀ name, (d.execute c baseUrl bound s).1 ≠ .error (.invalidHeader name)) ∧
      (d.execute c baseUrl bound s).2.sent = if s.cancelled then s.sent else s.sent ++ [r] := by
  rw [execute_apply, hr]
  cases s.cancelled with
  | true => exact ⟨nofun, rfl⟩
  | false =>
    have hlocal := local_receive (s.reply 0).outcome
    exact ⟨receive_ne_invalidHeader _ _, (hlocal.sameRemote _).sent⟩

theorem execute_eq_invalidHeader_iff (hurl : requestUrl c baseUrl bound = .ok url) :
    (d.execute c baseUrl bound s).1 = .error (.invalidHeader name) ↔
      d.illegal? c bound = some name := by
  cases hillegal : d.illegal? c bound with
  | some first =>
    rw [execute_of_illegal hurl hillegal]
    simp
  | none =>
    obtain ⟨headers, -, hr⟩ := exists_buildRequest hurl hillegal (d.runSpan s)
    exact ⟨fun h => absurd h ((execute_of_legal hr).1 name), nofun⟩

/-- **Header fields** of a command whose URL is found. If a field may not be put, the first such is
reported and nothing is sent. Otherwise the fields of the request are those with an origin, once in
whatever letter case. A trace context of hexadecimal digits is never left out, and the header flags
of a command of a document are looked at in the order of their names. -/
theorem request_fields (d : Dispatcher) (s : Session)
    (hurl : requestUrl c baseUrl bound = .ok url) :
    ((∃ name, (d.execute c baseUrl bound s).1 = .error (.invalidHeader name)) ↔
        Headers.isValue d.userAgent = false ∨
        (∃ args, d.rawArgs = some args ∧ Headers.isValue args = false) ∨
        ∃ f b, (f, b) ∈ sendable c bound .header ∧
          (Headers.name? f.paramName = none ∨ Headers.isValue b.joined = false)) ∧
      (∀ name, (d.execute c baseUrl bound s).1 = .error (.invalidHeader name) →
        d.illegal? c bound = some name ∧ (d.execute c baseUrl bound s).2.sent = s.sent) ∧
      ((¬∃ name, (d.execute c baseUrl bound s).1 = .error (.invalidHeader name)) → ∃ r,
        (d.buildRequest c baseUrl bound (d.runSpan s)).run.value = .ok r ∧
        (d.execute c baseUrl bound s).2.sent = (if s.cancelled then s.sent else s.sent ++ [r]) ∧
        (r.headers.keys.map String.toLower).Nodup ∧
        ∀ name value : String,
          (∃ key : String, key.toLower = name.toLower ∧ r.headers.get? key = some value) ↔
            d.field? c bound (d.runSpan s) name.toLower = some value) ∧
      (∀ context, (d.runSpan s).context = some context → Text.IsHex context.traceId →
        Text.IsHex context.spanId → (d.runSpan s).field? = some context.headerValue) ∧
      ∀ doc docUrl env set, (compile doc docUrl env).run.value = .ok set → c ∈ set.commands →
        (sendable c bound .header).Pairwise fun f g => f.1.name < g.1.name := by
  refine ⟨?_, fun name hname => ?_, fun hlegal => ?_, fun context hcontext hid hsp => ?_,
    fun doc docUrl env set hset hc => ?_⟩
  · simp only [execute_eq_invalidHeader_iff hurl]
    exact exists_illegal?_iff
  · have hillegal := (execute_eq_invalidHeader_iff hurl).1 hname
    rw [execute_of_illegal hurl hillegal]
    exact ⟨hillegal, rfl⟩
  · simp only [execute_eq_invalidHeader_iff hurl, ← Option.isSome_iff_exists,
      Option.not_isSome_iff_eq_none] at hlegal
    obtain ⟨headers, hheaders, hr⟩ := exists_buildRequest hurl hlegal (d.runSpan s)
    have hheld := heldByName_inject (heldByName_headers hheaders) (d.runSpan s)
    refine ⟨_, hr, (execute_of_legal hr).2, hheld.nodup_toLower, fun name value => ?_⟩
    rw [hheld.exists_get?_iff, get?_inject_headers hheaders]
  · have hvalue : Headers.isValue context.headerValue = true := isValue_headerValue hid hsp
    rw [Span.field?, hcontext, Option.map_some, Option.filter_some, if_pos hvalue]

  · exact sendable_ordered (wellKept_of_compile hset hc) bound .header

/-! ## Header flags that name the same fields -/

namespace HeaderFields
open ExplicitValues

/-- A command with two header flags of one field, one of a fixed field and one of the trace
context. -/
def sample : Command :=
  command "/items" [flag "accept" "Accept" .header, flag "trace-parent" "traceParent" .header,
    flag "x-a" "xA" .header, flag "xa" "XA" .header]

def values : Dict Bound :=
  explicit [("accept", ["text/html"]), ("trace-parent", ["mine"]), ("x-a", ["1"]),
    ("xa", ["2", "3"])]

def url : Url := ⟨"http", some ⟨"", none, .name "api.test", none⟩, .segments ["items"], none, none⟩

/-- A dispatcher that sends the command line along. -/
def client (args : String) : Dispatcher := { dispatcher with rawArgs := some args }

end HeaderFields

open HeaderFields in
set_option maxRecDepth 2000 in
/-- The later flag of the two prevails, the flag of the fixed field too, and the trace context
prevails over its flag. A command line of two lines is no field. -/
theorem request_fields_overriding :
    requestUrl sample "http://api.test" values = .ok url ∧
      (∃ r, ((client "app c").execute sample "http://api.test" values Session.start).2.sent = [r] ∧
        (r.headers.keys.map String.toLower).Nodup ∧
        (∃ key, key.toLower = "xa" ∧ r.headers.get? key = some "2,3") ∧
        (∃ key, key.toLower = "accept" ∧ r.headers.get? key = some "text/html") ∧
        (∃ key, key.toLower = "user-agent" ∧ r.headers.get? key = some "client") ∧
        (∃ key, key.toLower = "x-raw-args" ∧ r.headers.get? key = some "app c") ∧
        (∃ key, key.toLower = "traceparent" ∧ r.headers.get? key =
          some "00-0af7651916cd43dd8448eb211c80319c-0000000000000001-01") ∧
        ¬∃ value key, key.toLower = "cookie" ∧ r.headers.get? key = some value) ∧
      ((client "a\nb").execute sample "http://api.test" values Session.start).2.sent = [] ∧
      ∃ name, ((client "a\nb").execute sample "http://api.test" values Session.start).1 =
        .error (.invalidHeader name) := by
  have hurl : requestUrl sample "http://api.test" values = .ok url := by decide +kernel
  have hok : ((client "app c").execute sample "http://api.test" values Session.start).1 =
      .ok () := by decide +kernel
  have hlegal : ¬∃ name, ((client "app c").execute sample "http://api.test" values
      Session.start).1 = .error (.invalidHeader name) := by
    rintro ⟨name, hname⟩
    rw [hok] at hname
    cases hname
  obtain ⟨-, -, hsends, -, -⟩ := request_fields (client "app c") Session.start hurl
  obtain ⟨r, -, hsent, hnodup, hfields⟩ := hsends hlegal
  have hfound (name value : String) (hname : name.toLower = name)
      (hfield : (client "app c").field? sample values ((client "app c").runSpan Session.start)
        name = some value) : ∃ key, key.toLower = name ∧ r.headers.get? key = some value := by
    have hiff := hfields name value
    rw [hname] at hiff
    exact hiff.2 hfield
  obtain ⟨hreports, hfails, -, -, -⟩ := request_fields (client "a\nb") Session.start hurl
  obtain ⟨name, hname⟩ := hreports.2 (.inr (.inl ⟨"a\nb", rfl, by decide⟩))
  refine ⟨hurl, ⟨r, hsent, hnodup, hfound _ _ (by decide +kernel) (by decide +kernel),
    hfound _ _ (by decide +kernel) (by decide +kernel),
    hfound _ _ (by decide +kernel) (by decide +kernel),
    hfound _ _ (by decide +kernel) (by decide +kernel),
    hfound _ _ (by decide +kernel) (by decide +kernel), ?_⟩, (hfails name hname).2, name, hname⟩
  rintro ⟨value, hvalue⟩
  have hcookie : "cookie".toLower = "cookie" := by decide +kernel
  have hnone : (client "app c").field? sample values ((client "app c").runSpan Session.start)
      "cookie" = none := by decide +kernel
  have hiff := hfields "cookie" value
  rw [hcookie, hnone] at hiff
  cases hiff.1 hvalue

end Dispatcher
end ApiCli

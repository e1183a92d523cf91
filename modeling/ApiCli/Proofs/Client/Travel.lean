import ApiCli.Proofs.Client.Call
import ApiCli.Proofs.Client.Dispatch

/-!
# What travels in a request

Which flags of a called command contribute to its request, and with which values.

* `Flag.supplied` is what supplies a flag: the words of the call, else the environment that its
  parameter names. A default of the document supplies nothing.
* `Flag.travels` is the text of what is supplied, in the type of the flag.
* `Command.pairs` lists the pairs of the supplied flags of a location, in name order.

**What travels** (`supplied_flags_travel`): the query and the header fields of the request are
those of the supplied flags, whatever the command line, the document and the environment.
-/

namespace ApiCli

variable {doc : Document} {env processEnv : Environment} {config : Config} {set : CommandSet}
  {c : Command} {given : Dict Given} {bound : Dict Bound} {f : Flag} {p : Parameter}

/-- What supplies a flag with raw values: a call that gives it some, else the environment. -/
def Flag.supplied (env : Environment) (p : Parameter) (raws : List String) : List String :=
  if raws = [] then (envValue env p).toList else raws

/-- The text that raw values travel as, if there are any. -/
def Flag.travels (f : Flag) (raws : List String) : Option String :=
  if raws = [] then none else (f.type.readAll? raws).map fun values => ",".intercalate values

/-- The pairs of the flags of a location, under the names of their parameters. -/
def Command.pairs (c : Command) (location : Location) (declaration : Flag → Parameter)
    (raws : Flag → List String) : List (String × String) :=
  (c.flags.values.filter fun f => f.location = location).filterMap fun f =>
    (f.travels (raws f)).map fun text => ((declaration f).name, text)

/-! ## One flag -/

theorem Flag.argumentDefaults_of_env (h : f.DeclaredBy env p) (hv : envValue env p = some v) :
    f.argumentDefaults ≠ [] ∧ f.type.readAll? f.argumentDefaults = f.type.readAll? [v] := by
  have hdefault : f.default = some v := by simp [h.default, hv]
  have hrequired : f.cliRequired = false := by simp [cliRequired, h.required, hv]
  have hne : v ≠ "" := by
    have := Option.mem_filter_iff.1 hv
    simpa using this.2
  unfold argumentDefaults
  rw [hrequired, hdefault]
  simp only [Bool.false_eq_true, if_false, hne]
  split
  · next harray =>
    exact ⟨Text.splitOn_ne_nil ',' v, FlagType.readAll?_splitOn harray v⟩
  · exact ⟨List.cons_ne_nil _ _, rfl⟩

/-- What is bound to a settled flag travels exactly if the flag is supplied. -/
theorem Flag.DeclaredBy.travels (h : f.DeclaredBy env p)
    (hsettled : f.argument.Settled processEnv raws held)
    (hbound : bound.get? f.name = held.map fun g => ⟨g.values, g.isExplicit⟩) :
    ((bound.get? f.name).filter (isSendable f)).map Bound.joined =
        f.travels (supplied env p raws) ∧
      (f.type.readAll? (supplied env p raws)).isSome := by
  rw [hbound]
  cases hsettled with
  | commandLine hraws hvalues =>
    have hvalues : f.type.readAll? raws = some _ := hvalues
    simp [Flag.travels, supplied, hraws, hvalues, Option.filter, isSendable, Given.isExplicit,
      Bound.joined]
  | environment _ henv => cases henv
  | @default values hraws _ hdefaults hvalues =>
    subst hraws
    have hvalues : f.type.readAll? f.argumentDefaults = some values := hvalues
    cases hv : envValue env p with
    | none =>
      have hnot : f.envSupplied = false := by simp [h.envSupplied, hv]
      simp [Flag.travels, supplied, hv, Option.filter, isSendable, Given.isExplicit, hnot]
    | some v =>
      have hsupplied : f.envSupplied = true := by simp [h.envSupplied, hv]
      have hv' : v ≠ "" := by simpa using (Option.mem_filter_iff.1 hv).2
      rw [(argumentDefaults_of_env h hv).2] at hvalues
      have hjoined := FlagType.intercalate_ne_empty hv' hvalues
      simp [Flag.travels, supplied, hv, Option.filter, isSendable, hsupplied, hvalues, hjoined,
        Bound.joined]
  | absent hraws _ hdefaults =>
    subst hraws
    cases hv : envValue env p with
    | none => simp [Flag.travels, supplied, hv]
    | some v => exact absurd hdefaults (argumentDefaults_of_env h hv).1

/-! ## All flags of a command -/

/-- Each flag of the command is bound to what it is given. -/
theorem get?_boundValues (c : Command) (given : Dict Given) (hname : name ∈ c.flags.keys) :
    (boundValues c given).get? name =
      (given.get? name).map fun g => ⟨g.values, g.isExplicit⟩ := by
  have hfold : boundValues c given = c.flags.keys.foldl (fun bound name =>
      (given.get? name).elim bound fun g => bound.insert name ⟨g.values, g.isExplicit⟩)
        Dict.empty := by
    unfold boundValues
    congr 1
    funext bound name
    cases given.get? name <;> rfl
  have (names : List String) (bound : Dict Bound) :
      (names.foldl (fun bound name => (given.get? name).elim bound fun g =>
        bound.insert name ⟨g.values, g.isExplicit⟩) bound).get? name =
        if name ∈ names ∧ (given.get? name).isSome then
          (given.get? name).map fun g => ⟨g.values, g.isExplicit⟩
        else bound.get? name := by
    induction names generalizing bound with
    | nil => simp
    | cons other names ih =>
      rw [List.foldl_cons, ih]
      cases hother : given.get? other with
      | none => grind
      | some g => grind [Dict.get?_insert]
  rw [hfold, this]
  cases given.get? name <;> simp [hname]

theorem map_sendable {declaration : Flag → Parameter} {raws : Flag → List String}
    (hname : ∀ f ∈ c.flags.values, f.paramName = (declaration f).name)
    (htravels : ∀ f ∈ c.flags.values,
      ((bound.get? f.name).filter (isSendable f)).map Bound.joined = f.travels (raws f))
    (location : Location) :
    ((sendable c bound location).map fun s => (s.1.paramName, s.2.joined)) =
      c.pairs location declaration raws := by
  rw [sendable, Command.pairs, List.map_filterMap, List.filterMap_filter]
  refine List.filterMap_congr fun f hf => ?_
  by_cases hlocation : f.location = location
  · simp [hlocation, ← htravels f hf, ← hname f hf, Function.comp_def]
  · simp [hlocation]

/-! ## Header fields -/

/-- The value of the last pair under a name of header fields. -/
def lastValue? (pairs : List (String × String)) (key : String) : Option String :=
  (pairs.reverse.find? fun p => Headers.name? p.1 = some key).map (·.2)

theorem putHeader_eq_ok {headers headers' : Headers}
    (h : Dispatcher.putHeader headers name value = .ok headers') :
    ∃ key, Headers.name? name = some key ∧ headers' = headers.insert key value := by
  unfold Dispatcher.putHeader Headers.put? at h
  cases hname : Headers.name? name with
  | none => simp [hname] at h
  | some key =>
    by_cases hvalue : Headers.isValue value = true
    · exact ⟨key, rfl, by simpa [hname, hvalue, eq_comm] using h⟩
    · simp [hname, hvalue] at h

/-- Fields that are put one after the other: the last one of a name prevails. -/
theorem foldlM_putHeader {pairs : List (String × String)} {headers headers' : Headers}
    (h : pairs.foldlM (fun headers p => Dispatcher.putHeader headers p.1 p.2) headers =
      .ok headers') :
    (∀ p ∈ pairs, (Headers.name? p.1).isSome) ∧
      ∀ key, headers'.get? key = (lastValue? pairs key).or (headers.get? key) := by
  induction pairs generalizing headers with
  | nil =>
    cases h
    simp [lastValue?]
  | cons p pairs ih =>
    rw [List.foldlM_cons] at h
    obtain ⟨headers₁, hput, hrest⟩ := Except.bind_eq_ok.1 h
    obtain ⟨key, hkey, rfl⟩ := putHeader_eq_ok hput
    obtain ⟨hnames, hget⟩ := ih hrest
    refine ⟨by simpa [hkey] using hnames, fun other => ?_⟩
    rw [hget, Dict.get?_insert, lastValue?, lastValue?, List.reverse_cons, List.find?_append]
    by_cases hother : key = other
    · subst hother
      cases List.find? _ pairs.reverse <;> simp [hkey]
    · cases List.find? _ pairs.reverse <;> simp [hkey, hother]

/-- A pair that no later one of its name follows prevails. -/
theorem lastValue?_append_cons {before after : List (String × String)} {pair : String × String}
    (hkey : Headers.name? pair.1 = some key)
    (hlast : ∀ later ∈ after, Headers.name? later.1 ≠ some key) :
    lastValue? (before ++ pair :: after) key = some pair.2 := by
  have hnone : after.reverse.find? (fun p => Headers.name? p.1 = some key) = none := by
    rw [List.find?_eq_none]
    intro later hlater
    simpa using hlast later (List.mem_reverse.1 hlater)
  rw [lastValue?, List.reverse_append, List.reverse_cons, List.append_assoc, List.find?_append,
    hnone, List.singleton_append, Option.none_or, List.find?_cons_of_pos (by simpa using hkey)]
  rfl

/-- Only the trace context of a span goes into header fields. -/
theorem get?_inject (span : Span) (headers : Headers)
    (hkey : span.context = none ∨ key ≠ traceparent) :
    (span.inject headers).value.get? key = headers.get? key := by
  unfold Span.inject
  cases hcontext : span.context with
  | none => rfl
  | some context =>
    rw [hcontext] at hkey
    have hkey : key ≠ traceparent := hkey.resolve_left (Option.some_ne_none context)
    have hname : Headers.name? traceparent = some traceparent := by decide
    dsimp only
    unfold Headers.put?
    rw [hname]
    by_cases hvalue : Headers.isValue context.headerValue = true
    · simp [hvalue, Dict.get?_insert, Ne.symm hkey]
    · simp only [hvalue]
      rfl

/-- The header flags of a command, by the names of their parameters. -/
def headerPairs (c : Command) (bound : Dict Bound) : List (String × String) :=
  (sendable c bound .header).map fun s => (s.1.paramName, s.2.joined)

/-- The fields of the header flags replace the fixed ones. -/
theorem Dispatcher.headers_eq_ok {d : Dispatcher} {headers : Headers}
    (h : d.headers c bound = .ok headers) :
    (∀ p ∈ headerPairs c bound, (Headers.name? p.1).isSome) ∧
      ∃ fixed, d.fixedHeaders = .ok fixed ∧
        ∀ key, headers.get? key = (lastValue? (headerPairs c bound) key).or (fixed.get? key) := by
  unfold Dispatcher.headers at h
  obtain ⟨fixed, hfixed, hfold⟩ := Except.bind_eq_ok.1 h
  have hfold : (headerPairs c bound).foldlM
      (fun headers p => Dispatcher.putHeader headers p.1 p.2) fixed = .ok headers := by
    rw [headerPairs, List.foldlM_map]
    exact hfold
  obtain ⟨hnames, hget⟩ := foldlM_putHeader hfold
  exact ⟨hnames, fixed, hfixed, hget⟩

/-! ## The request -/

/-- A request carries query pairs and header fields: the pairs follow the query of the command's
URL, and the fields replace those that every request has. The context of the span apart, if it has
one, there are no others. -/
structure Request.Carries (d : Dispatcher) (c : Command) (baseUrl : String) (bound : Dict Bound)
    (span : Span) (query headers : List (String × String)) (r : Request) : Prop where
  query : ∃ path url, bindPath c bound = .ok path ∧ Url.parse (endpoint baseUrl path) = .ok url ∧
    r.url = url.addPairs query
  names : ∀ p ∈ headers, (Headers.name? p.1).isSome
  headers : ∃ fixed, d.fixedHeaders = .ok fixed ∧
    ∀ key, span.context = none ∨ key ≠ traceparent →
      r.headers.get? key = (lastValue? headers key).or (fixed.get? key)

theorem Dispatcher.requestUrl_eq_ok (h : requestUrl c baseUrl bound = .ok url) :
    ∃ path parsed, bindPath c bound = .ok path ∧
      Url.parse (endpoint baseUrl path) = .ok parsed ∧
      url = parsed.addPairs (bindQuery c bound) := by
  unfold requestUrl at h
  cases hpath : bindPath c bound with
  | error name => simp [hpath] at h
  | ok path =>
    cases hparse : Url.parse (endpoint baseUrl path) with
    | error e => simp [hpath, hparse] at h
    | ok parsed => exact ⟨path, parsed, rfl, hparse, by simpa [hpath, hparse, eq_comm] using h⟩

theorem carries_of_buildRequest {d : Dispatcher} {span : Span} {r : Request}
    (h : (d.buildRequest c baseUrl bound span).run.value = .ok r) :
    r.Carries d c baseUrl bound span (bindQuery c bound) (headerPairs c bound) := by
  obtain ⟨hurl, headers, hheaders, hinject⟩ := Dispatcher.buildRequest_eq_ok h
  obtain ⟨hnames, fixed, hfixed, hget⟩ := Dispatcher.headers_eq_ok hheaders
  refine ⟨Dispatcher.requestUrl_eq_ok hurl, hnames, fixed, hfixed, fun key hkey => ?_⟩
  rw [hinject, get?_inject span headers hkey, hget]

/-- In an accepted call of a command, a query or header flag travels exactly if the words of the
call or the environment supply it, and then with the values that they supply. -/
theorem supplied_flags_travel (hset : (compile doc baseUrl env).run.value = .ok set)
    (hc : c ∈ set.commands) (hparse : (config.commandTree set).parse processEnv args =
      .ok ⟨globals, some (c.name, given)⟩) :
    ∃ (reading : Reading) (words : List String) (declaration : Flag → Parameter)
        (raws : Flag → List String),
      (config.commandTree set).rootLevel.scan Reading.start args.tail =
        .ok (reading, some (.subcommand c.subcommand, words)) ∧
      (∀ f ∈ c.flags.values,
        (∃ p ∈ Source.parameters doc c.method c.path, doc.StandsFor p (declaration f)) ∧
        f.DeclaredBy env (declaration f) ∧
        raws f = Flag.supplied env (declaration f)
          ((config.commandLevel set c).rawValues f.argument words) ∧
        (f.type.readAll? (raws f)).isSome) ∧
      (c.flags.values.map (·.name)).Pairwise (· < ·) ∧
      bindQuery c (boundValues c given) = c.pairs .query declaration raws ∧
      ∀ (d : Dispatcher) (span : Span) (r : Request),
        (d.buildRequest c baseUrl (boundValues c given) span).run.value = .ok r →
        r.Carries d c baseUrl (boundValues c given) span (c.pairs .query declaration raws)
          (c.pairs .header declaration raws) := by
  obtain ⟨reading, words, hscan, hsettled⟩ := settled_of_call hset hc hparse
  have hkept := wellKept_of_compile hset hc
  have hdeclared : ∀ f : Flag, ∃ target, f ∈ c.flags.values →
      (∃ p ∈ Source.parameters doc c.method c.path, doc.StandsFor p target) ∧
        f.DeclaredBy env target := by
    intro f
    by_cases hf : f ∈ c.flags.values
    · obtain ⟨-, -, p, hp, target, htarget, hdeclared⟩ := hkept.name_of_mem hf
      exact ⟨target, fun _ => ⟨⟨p, hp, htarget⟩, hdeclared⟩⟩
    · exact ⟨Parameter.empty, fun h => absurd h hf⟩
  choose declaration hdeclaration using hdeclared
  have hbound : ∀ f ∈ c.flags.values, (boundValues c given).get? f.name = _ := fun f hf =>
    get?_boundValues c given (Dict.mem_keys_iff.2 ⟨f, (hkept.name_of_mem hf).1⟩)
  have htravels : ∀ f ∈ c.flags.values, _ := fun f hf =>
    (hdeclaration f hf).2.travels (hsettled f hf) (hbound f hf)
  have hpairs := map_sendable (fun f hf => (hdeclaration f hf).2.paramName)
    fun f hf => (htravels f hf).1
  refine ⟨reading, words, declaration, fun f => Flag.supplied env (declaration f)
    ((config.commandLevel set c).rawValues f.argument words), hscan, fun f hf => ?_, ?_,
    hpairs .query, fun d span r hbuild => ?_⟩
  · exact ⟨(hdeclaration f hf).1, (hdeclaration f hf).2, rfl, (htravels f hf).2⟩
  · exact List.pairwise_map.2 hkept.ordered
  · have hcarries := carries_of_buildRequest hbuild
    rw [headerPairs, hpairs .header] at hcarries
    rw [← hpairs .query]
    exact hcarries

/-! ## A sample

A command with three query flags: `key` is supplied by the environment, `page-size` has a default
in the document and `tag` is given twice. -/

/-- A query parameter of the sample. -/
def sampleParameter (name type : String) (items : Option Items) (default : Option Json)
    (env : Option String) : Parameter :=
  { Parameter.empty with name, location := .query, type := some type, items, default, env }

/-- A document with one operation, which is marked as the command `list`. -/
def sampleDocument : Document :=
  let list : Operation := { Operation.empty with
    command := some "list"
    parameters := [
      sampleParameter "key" "string" none none (some "KEY"),
      sampleParameter "pageSize" "integer" none (some (.number "10")) none,
      sampleParameter "tag" "array" (some ⟨some "integer"⟩) none none] }
  { Document.empty with
    paths := Dict.empty.insert "/items" (PathItem.empty.setOperation .get (some list)) }

/-- The environment supplies the key. -/
def sampleEnvironment : Environment := fun name => if name = "KEY" then some "secret" else none

/-- A query flag of the sample. -/
def sampleFlag (name paramName : String) (type : FlagType) (default : Option String)
    (supplied : Bool) : Flag :=
  { name, paramName, type, default
    short := none
    description := ""
    location := .query
    required := false
    fromEnv := supplied
    envSupplied := supplied }

/-- The command of the sample. -/
def sampleCommand : Command :=
  { name := "list"
    aliases := []
    method := .get
    path := "/items"
    summary := ""
    description := ""
    flags := Dict.ofList [
      ("key", sampleFlag "key" "key" (.single .string) (some "secret") true),
      ("page-size", sampleFlag "page-size" "pageSize" (.single .integer) (some "10") false),
      ("tag", sampleFlag "tag" "tag" (.array .integer) none false)]
    isDefault := false }

/-- What a call of the sample with the tags `1,+2` and `03` is given. -/
def sampleGiven : Dict Given :=
  Dict.ofList [
    ("base-url", ⟨.default, ["http://h"]⟩), ("swagger-path", ⟨.default, ["/swagger.json"]⟩),
    ("key", ⟨.default, ["secret"]⟩), ("page-size", ⟨.default, ["10"]⟩),
    ("tag", ⟨.commandLine, ["1", "2", "3"]⟩)]

/-- The key and the tags travel, the default of the document does not. -/
theorem supplied_flags_travel_sample :
    (compile sampleDocument "http://h" sampleEnvironment).run.value =
        .ok ⟨[sampleCommand], Registry.empty, "http://h"⟩ ∧
      ((Config.new "app" "" "http://h").commandTree
          ⟨[sampleCommand], Registry.empty, "http://h"⟩).parse
          (fun _ => none) ["app", "list", "--tag=1,+2", "--tag", "03"] =
        .ok ⟨Dict.ofList [("base-url", ⟨.default, ["http://h"]⟩),
            ("swagger-path", ⟨.default, ["/swagger.json"]⟩)], some ("list", sampleGiven)⟩ ∧
      bindQuery sampleCommand (boundValues sampleCommand sampleGiven) =
        [("key", "secret"), ("tag", "1,2,3")] ∧
      ∃ declaration raws, bindQuery sampleCommand (boundValues sampleCommand sampleGiven) =
        sampleCommand.pairs .query declaration raws := by
  have hset : (compile sampleDocument "http://h" sampleEnvironment).run.value =
      .ok ⟨[sampleCommand], Registry.empty, "http://h"⟩ := by rfl
  have hparse : ((Config.new "app" "" "http://h").commandTree
      ⟨[sampleCommand], Registry.empty, "http://h"⟩).parse (fun _ => none)
        ["app", "list", "--tag=1,+2", "--tag", "03"] =
      .ok ⟨Dict.ofList [("base-url", ⟨.default, ["http://h"]⟩),
          ("swagger-path", ⟨.default, ["/swagger.json"]⟩)], some ("list", sampleGiven)⟩ := by rfl
  obtain ⟨-, -, declaration, raws, -, -, -, hquery, -⟩ :=
    supplied_flags_travel hset List.mem_cons_self hparse
  exact ⟨hset, hparse, by decide +kernel, declaration, raws, hquery⟩

end ApiCli

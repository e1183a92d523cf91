import Mathlib.Data.List.Forall2
import ApiCli.Proofs.Command.Flags

/-!
# Compilation of documents

Compiling a document loses, doubles and reorders nothing.

* `Origin` is a place of a document that can hold a source. `Source.all` goes through them in
  the order `Origin.Before`.
* `Source.faults` lists what is wrong with a source, given the sources accepted before it; a
  source fails with the first of its faults.
* `Shares` says what the shared parameters come to one after the other, and `Judged` what the
  sources come to.

**Compilation of a document** (`compile_judges_all`): every source comes to one command or to one
failure, and there are commands only if nothing has failed.
-/

namespace ApiCli

/-! ## The order of sources -/

/-- A place of a document that can hold a source. -/
inductive Origin where
  | operation (path : String) (method : Method)
  | entry (name : String)

namespace Origin

/-- The source that a document holds at a place. -/
def source? (doc : Document) : Origin → Option Source
  | operation path method =>
    ((doc.paths.get? path).bind (·.operation? method)).bind (Source.ofOperation? path method)
  | entry name => (doc.commands.get? name).map (Source.ofEntry name)

/-- Operations come before entries; operations are ordered by path and then by method, entries by
name. -/
def Before : Origin → Origin → Prop
  | operation p m, operation p' m' =>
    p < p' ∨ p = p' ∧ Method.all.idxOf m < Method.all.idxOf m'
  | operation .., entry _ => True
  | entry _, operation .. => False
  | entry name, entry name' => name < name'

/-- The places of a document, in order. -/
def all (doc : Document) : List Origin :=
  (doc.paths.keys.flatMap fun path => Method.all.map (operation path)) ++
    doc.commands.keys.map entry

theorem pairwise_all (doc : Document) : (all doc).Pairwise Before := by
  have paths : doc.paths.keys.Pairwise (· < ·) := Dict.keysIncrease_iff.1 doc.paths.increase
  have names : doc.commands.keys.Pairwise (· < ·) := Dict.keysIncrease_iff.1 doc.commands.increase
  have methods : Method.all.Pairwise fun m m' => Method.all.idxOf m < Method.all.idxOf m' := by
    decide
  refine List.pairwise_append.2 ⟨List.pairwise_flatMap.2 ⟨fun path _ => ?_, ?_⟩, ?_, ?_⟩
  · rw [List.pairwise_map]
    exact methods.imp fun h => .inr ⟨rfl, h⟩
  · refine paths.imp fun hlt o ho o' ho' => ?_
    obtain ⟨m, -, rfl⟩ := List.mem_map.1 ho
    obtain ⟨m', -, rfl⟩ := List.mem_map.1 ho'
    exact .inl hlt
  · rw [List.pairwise_map]
    exact names
  · intro o ho o' ho'
    obtain ⟨path, -, ho⟩ := List.mem_flatMap.1 ho
    obtain ⟨m, -, rfl⟩ := List.mem_map.1 ho
    obtain ⟨name, -, rfl⟩ := List.mem_map.1 ho'
    trivial

theorem mem_all_of_source? {doc : Document} {o : Origin} (h : (o.source? doc).isSome) :
    o ∈ all doc := by
  cases o with
  | operation path method =>
    obtain ⟨item, hitem⟩ : ∃ item, doc.paths.get? path = some item := by
      cases hget : doc.paths.get? path with
      | none => simp [source?, hget] at h
      | some item => exact ⟨item, rfl⟩
    have hmethod : method ∈ Method.all := by cases method <;> decide
    exact List.mem_append_left _ (List.mem_flatMap.2
      ⟨path, Dict.mem_keys_iff.2 ⟨item, hitem⟩, List.mem_map_of_mem hmethod⟩)
  | entry name =>
    obtain ⟨e, he⟩ : ∃ e, doc.commands.get? name = some e := by
      simpa [source?, Option.isSome_iff_exists] using h
    exact List.mem_append_right _ (List.mem_map_of_mem (Dict.mem_keys_iff.2 ⟨e, he⟩))

theorem sources_eq (doc : Document) :
    Source.all doc = (all doc).filterMap (·.source? doc) := by
  unfold Source.all all
  rw [List.filterMap_append]
  congr 1
  · rw [List.filterMap_flatMap, Dict.keys, List.flatMap_map]
    refine List.flatMap_congr fun p hp => ?_
    have hget : doc.paths.get? p.1 = some p.2 := Dict.get?_eq_some_iff.2 hp
    simp only [PathItem.operations, List.filterMap_filterMap, List.filterMap_map]
    refine List.filterMap_congr fun m _ => ?_
    cases hop : p.2.operation? m <;> simp [source?, hget, hop]
  · rw [Dict.keys, List.map_map, List.filterMap_map, ← List.filterMap_eq_map]
    refine List.filterMap_congr fun e he => ?_
    have hget : doc.commands.get? e.1 = some e.2 := Dict.get?_eq_some_iff.2 he
    simp [source?, hget]

end Origin

/-! ## Shared parameters -/

/-- The shared parameter is no longer looked at, since it is in the body, or has a flag. -/
def SharedParameters.held (env : Environment) (registry : Registry) (p : Parameter) :
    Option Flag :=
  if p.location.isBody then none else Flag.ofNode? env registry p

/-- What the shared parameters come to, one after the other: one outside the body whose reference
is not held fails, any other is held. -/
inductive Shares (env : Environment) :
    Registry → List (String × Parameter) → List Failure → Registry → Prop
  | nil : Shares env registry [] [] registry
  | missing : p.location.isBody = false → registry.missing? p = some reference →
      Shares env registry rest failures final →
      Shares env registry ((name, p) :: rest)
        (⟨Flag.reference name, .parameter (.missingReference reference)⟩ :: failures) final
  | held : p.location.isBody = true ∨ registry.missing? p = none →
      Shares env (registry.add name (SharedParameters.held env registry p)) rest failures final →
      Shares env registry ((name, p) :: rest) failures final

theorem SharedParameters.add_value (env : Environment) (s : SharedParameters) (name : String)
    (p : Parameter) :
    (s.add env name p).value =
      match if p.location.isBody then none else s.registry.missing? p with
      | some r => { s with
          failures := s.failures ++ [⟨Flag.reference name, .parameter (.missingReference r)⟩] }
      | none => { s with registry := s.registry.add name (held env s.registry p) } := by
  unfold SharedParameters.add held
  cases p.location.isBody with
  | true => rfl
  | false =>
    simp only [Bool.false_eq_true, if_false, Logged.value_bind, Flag.ofParameter_value]
    cases s.registry.missing? p <;> rfl

theorem SharedParameters.foldl_add (env : Environment) (s : SharedParameters)
    (entries : List (String × Parameter)) :
    ∃ failures registry, Shares env s.registry entries failures registry ∧
      entries.foldl (fun s e => (SharedParameters.add env s e.1 e.2).value) s =
        ⟨registry, s.failures ++ failures⟩ := by
  induction entries generalizing s with
  | nil => exact ⟨[], s.registry, .nil, by simp⟩
  | cons e rest ih =>
    obtain ⟨name, p⟩ := e
    rw [List.foldl_cons, add_value]
    cases hbody : p.location.isBody with
    | true =>
      obtain ⟨failures, registry, hshares, h⟩ := ih { s with registry := s.registry.add name _ }
      exact ⟨failures, registry, .held (.inl hbody) hshares, h⟩
    | false =>
      cases hmissing : s.registry.missing? p with
      | some r =>
        obtain ⟨failures, registry, hshares, h⟩ := ih { s with failures := s.failures ++ [_] }
        exact ⟨_, registry, .missing hbody hmissing hshares, by simpa using h⟩
      | none =>
        obtain ⟨failures, registry, hshares, h⟩ := ih { s with registry := s.registry.add name _ }
        exact ⟨failures, registry, .held (.inr hmissing) hshares, h⟩

/-- The shared parameters of a document come to a registry and to failures, in name order. -/
theorem sharedParameters_shares (env : Environment) (parameters : Dict Parameter) :
    Shares env Registry.empty parameters.entries (sharedParameters env parameters).value.failures
      (sharedParameters env parameters).value.registry := by
  obtain ⟨failures, registry, hshares, h⟩ :=
    SharedParameters.foldl_add env ⟨Registry.empty, []⟩ parameters.entries
  rw [sharedParameters, Logged.value_foldlM, h]
  exact hshares

/-! ## Sources -/

namespace Source

/-- The names that the command of a source takes. -/
def names (s : Source) : List String := s.name.toList ++ s.aliases

/-- The parameters that apply to a source: those of its path, then those of its operation. -/
def declared (doc : Document) (s : Source) : List Parameter :=
  match s.path.bind doc.paths.get? with
  | none => []
  | some item =>
    item.parameters ++
      (((s.method.bind Method.ofName?).bind item.operation?).map (·.parameters)).getD []

/-- What is wrong with a source by itself, in the order in which it is looked at. -/
def ownFaults (doc : Document) (registry : Registry) (s : Source) : List FailureReason :=
  (if s.method = none then [.missingMethod] else []) ++
  (if s.path = none then [.missingPath] else []) ++
  (if s.name = none then [.missingName] else []) ++
  ((s.method.filter fun m => (Method.ofName? m).isNone).map .invalidMethod).toList ++
  ((s.declared doc).filterMap registry.missing?).map fun r => .parameter (.missingReference r)

/-- One of the accepted sources has one of the names. -/
def Clashes (accepted : List Source) (s : Source) : Prop :=
  ∃ t ∈ accepted, ∃ name ∈ t.names, name ∈ s.names

instance : Decidable (Clashes accepted s) :=
  inferInstanceAs (Decidable (∃ t ∈ accepted, ∃ name ∈ t.names, name ∈ s.names))

/-- What is wrong with a source after those accepted, in the order in which it is looked at. -/
def faults (doc : Document) (registry : Registry) (accepted : List Source) (s : Source) :
    List FailureReason :=
  s.ownFaults doc registry ++ if s.Clashes accepted then [.duplicateName] else []

/-- A command is that of the source. -/
structure Realises (doc : Document) (env : Environment) (registry : Registry) (s : Source)
    (c : Command) : Prop where
  name : s.name = some c.name
  aliases : c.aliases = s.aliases
  method : s.method.bind Method.ofName? = some c.method
  path : s.path = some c.path
  isDefault : c.isDefault = s.isDefault
  flags : (compileFlags env registry (s.declared doc)).run.value = .ok c.flags

theorem Realises.names (h : Realises doc env registry s c) : s.names = c.names := by
  simp [Source.names, Command.names, h.name, h.aliases]

theorem declared_eq (doc : Document) {s : Source} {path : String} {method : Method}
    (hpath : s.path = some path) (hmethod : s.method.bind Method.ofName? = some method) :
    s.declared doc = parameters doc method path := by
  unfold declared
  rw [hpath, hmethod, Option.bind_some, parameters]
  cases doc.paths.get? path <;> rfl

/-- The name, the method and the path of a source, or the first thing that is wrong with them. -/
def heading (s : Source) : Except FailureReason (String × Method × String) :=
  match s.method, s.path, s.name with
  | none, _, _ => .error .missingMethod
  | some _, none, _ => .error .missingPath
  | some _, some _, none => .error .missingName
  | some m, some path, some name =>
    match Method.ofName? m with
    | none => .error (.invalidMethod m)
    | some method => .ok (name, method, path)

/-- The command of a source with its heading and its flags. -/
def command (doc : Document) (s : Source) (name : String) (method : Method) (path : String)
    (flags : Dict Flag) : Command :=
  let op := (doc.paths.get? path).bind fun item => item.operation? method
  { name
    aliases := s.aliases
    method
    path
    summary := (op.bind (·.summary)).getD ""
    description := (op.bind (·.description)).getD ""
    flags
    isDefault := s.isDefault }

/-- Of its source a command takes the heading, the aliases and the mark of the default. -/
theorem compile_eq_heading (doc : Document) (env : Environment) (registry : Registry) (s : Source) :
    (s.compile doc env registry).run.value = s.heading >>= fun (name, method, path) =>
      ((compileFlags env registry (parameters doc method path)).run.value.mapError .parameter).map
        (s.command doc name method path) := by
  unfold Source.compile heading
  cases s.method with
  | none => rfl
  | some m =>
    cases s.path with
    | none => rfl
    | some path =>
      cases s.name with
      | none => rfl
      | some name =>
        dsimp only
        cases Method.ofName? m with
        | none => rfl
        | some method =>
          dsimp only
          rw [Logged.value_run_bind, Logged.value_run_adapt, Except.ok_bind]
          cases (compileFlags env registry (parameters doc method path)).run.value <;> rfl

/-- A source that has faults of its own fails with the first of them; else it has a command. -/
theorem compile_value (doc : Document) (env : Environment) (registry : Registry) (s : Source) :
    (∃ reason, (s.ownFaults doc registry).head? = some reason ∧
      (s.compile doc env registry).run.value = .error reason) ∨
    s.ownFaults doc registry = [] ∧ ∃ c, (s.compile doc env registry).run.value = .ok c ∧
      Realises doc env registry s c := by
  unfold Source.compile
  cases hmethod : s.method with
  | none => exact .inl ⟨_, by simp [ownFaults, hmethod], rfl⟩
  | some m =>
    cases hpath : s.path with
    | none => exact .inl ⟨_, by simp [ownFaults, hmethod, hpath], rfl⟩
    | some path =>
      cases hname : s.name with
      | none => exact .inl ⟨_, by simp [ownFaults, hmethod, hpath, hname], rfl⟩
      | some name =>
        dsimp only
        cases hm : Method.ofName? m with
        | none =>
          refine .inl ⟨.invalidMethod m, ?_, rfl⟩
          simp [ownFaults, hmethod, hpath, hname, hm, Option.filter]
        | some method =>
          have hbind : s.method.bind Method.ofName? = some method := by simp [hmethod, hm]
          have hown : s.ownFaults doc registry =
              ((s.declared doc).filterMap registry.missing?).map fun r =>
                .parameter (.missingReference r) := by
            simp [ownFaults, hmethod, hpath, hname, hm, Option.filter]
          have hflags := compileFlags_value env registry (s.declared doc)
          rw [← List.head?_filterMap] at hflags
          dsimp only
          rw [hown, ← declared_eq doc hpath hbind, Logged.value_run_bind, Logged.value_run_adapt]
          cases hmissing : (s.declared doc).filterMap registry.missing? with
          | cons r rest =>
            rw [hmissing] at hflags
            rw [hflags]
            exact .inl ⟨_, rfl, rfl⟩
          | nil =>
            rw [hmissing] at hflags
            simp only [List.head?_nil] at hflags
            rw [hflags]
            exact .inr ⟨rfl, _, rfl, hname, rfl, hbind, hpath, rfl, hflags⟩

end Source

/-- What the sources come to, one after the other, given those accepted so far: one with a fault
fails, any other has a command and is accepted. -/
inductive Judged (doc : Document) (env : Environment) (registry : Registry) :
    List Source → List Source → List (Except FailureReason Command) → Prop
  | nil : Judged doc env registry accepted [] []
  | failed : (s.faults doc registry accepted).head? = some reason →
      Judged doc env registry accepted rest outcomes →
      Judged doc env registry accepted (s :: rest) (.error reason :: outcomes)
  | compiled : s.faults doc registry accepted = [] → s.Realises doc env registry c →
      Judged doc env registry (accepted ++ [s]) rest outcomes →
      Judged doc env registry accepted (s :: rest) (.ok c :: outcomes)

/-- The commands among the outcomes. -/
def commandsOf (outcomes : List (Except FailureReason Command)) : List Command :=
  outcomes.filterMap Except.toOption

/-- The failures among the outcomes of sources, under the labels of the sources. -/
def failuresOf (sources : List Source) (outcomes : List (Except FailureReason Command)) :
    List Failure :=
  (sources.zip outcomes).filterMap fun o =>
    match o.2 with
    | .error reason => some ⟨o.1.label, reason⟩
    | .ok _ => none

@[simp] theorem commandsOf_error : commandsOf (.error reason :: outcomes) = commandsOf outcomes :=
  rfl

@[simp] theorem commandsOf_ok : commandsOf (.ok c :: outcomes) = c :: commandsOf outcomes := rfl

@[simp] theorem failuresOf_error : failuresOf (s :: sources) (.error reason :: outcomes) =
    ⟨s.label, reason⟩ :: failuresOf sources outcomes := rfl

@[simp] theorem failuresOf_ok : failuresOf (s :: sources) (.ok c :: outcomes) =
    failuresOf sources outcomes := rfl

/-- The accepted sources have the names of the commands. -/
def Progress.Reflects (p : Progress) (accepted : List Source) : Prop :=
  accepted.map Source.names = p.commands.map Command.names

theorem Progress.Reflects.isTaken_iff {p : Progress} (h : p.Reflects accepted)
    (hc : Source.Realises doc env registry s c) :
    p.isTaken c = true ↔ s.Clashes accepted := by
  have hnames : (∃ t ∈ accepted, ∃ name ∈ t.names, name ∈ s.names) ↔
      ∃ names ∈ accepted.map Source.names, ∃ name ∈ names, name ∈ s.names := by simp
  unfold Source.Clashes
  rw [hnames, h]
  simp only [isTaken, Command.isNamed, List.any_eq_true, List.contains_iff_mem, hc.names,
    List.mem_map, exists_exists_and_eq_and]
  grind

theorem Progress.add_value (doc : Document) (env : Environment) (registry : Registry)
    (p : Progress) (s : Source) :
    (p.add doc env registry s).value =
      match (s.compile doc env registry).run.value with
      | .error reason => { p with failures := p.failures ++ [⟨s.label, reason⟩] }
      | .ok c =>
        if p.isTaken c then { p with failures := p.failures ++ [⟨s.label, .duplicateName⟩] }
        else { p with commands := p.commands ++ [c] } := by
  unfold Progress.add
  rw [Logged.value_bind]
  cases (s.compile doc env registry).run.value with
  | error reason => rfl
  | ok c => dsimp only; split <;> rfl

/-- One source fails with the first of its faults, or else has a command. -/
theorem Progress.Reflects.add {p : Progress} (h : p.Reflects accepted) (doc : Document)
    (env : Environment) (registry : Registry) (s : Source) :
    (∃ reason, (s.faults doc registry accepted).head? = some reason ∧
      (p.add doc env registry s).value =
        { p with failures := p.failures ++ [⟨s.label, reason⟩] }) ∨
    s.faults doc registry accepted = [] ∧ ∃ c, s.Realises doc env registry c ∧
      (p.add doc env registry s).value = { p with commands := p.commands ++ [c] } := by
  rw [Progress.add_value]
  unfold Source.faults
  rcases s.compile_value doc env registry with ⟨reason, hhead, hcompile⟩ | ⟨hown, c, hcompile, hc⟩
  · exact .inl ⟨reason, by simp [List.head?_append, hhead], by rw [hcompile]⟩
  · rw [hown, hcompile]
    by_cases hclash : s.Clashes accepted
    · exact .inl ⟨.duplicateName, by simp [hclash], by simp [(h.isTaken_iff hc).2 hclash]⟩
    · have hfree : p.isTaken c ≠ true := fun ht => hclash ((h.isTaken_iff hc).1 ht)
      exact .inr ⟨by simp [hclash], c, hc, by simp [hfree]⟩

theorem Progress.foldl_add (doc : Document) (env : Environment) (registry : Registry)
    {p : Progress} (h : p.Reflects accepted) (sources : List Source) :
    ∃ outcomes, Judged doc env registry accepted sources outcomes ∧
      sources.foldl (fun p s => (Progress.add doc env registry p s).value) p =
        ⟨p.commands ++ commandsOf outcomes, p.failures ++ failuresOf sources outcomes⟩ := by
  induction sources generalizing p accepted with
  | nil => exact ⟨[], .nil, by simp [commandsOf, failuresOf]⟩
  | cons s rest ih =>
    rw [List.foldl_cons]
    rcases h.add doc env registry s with ⟨reason, hhead, hadd⟩ | ⟨hfaults, c, hc, hadd⟩
    · have hreflects :
          Reflects { p with failures := p.failures ++ [⟨s.label, reason⟩] } accepted := h
      obtain ⟨outcomes, hjudged, hfold⟩ := ih hreflects
      exact ⟨_, .failed hhead hjudged, by simp [hadd, hfold]⟩
    · have hreflects : Reflects { p with commands := p.commands ++ [c] } (accepted ++ [s]) := by
        simp [Reflects, hc.names, show accepted.map Source.names = _ from h]
      obtain ⟨outcomes, hjudged, hfold⟩ := ih hreflects
      exact ⟨_, .compiled hfaults hc hjudged, by simp [hadd, hfold]⟩

/-- Without failures every source has a command, in order. -/
theorem Judged.realises (h : Judged doc env registry accepted sources outcomes)
    (hok : failuresOf sources outcomes = []) :
    List.Forall₂ (Source.Realises doc env registry) sources (commandsOf outcomes) := by
  induction h with
  | nil => exact .nil
  | failed => simp at hok
  | compiled _ hc _ ih => exact .cons hc (ih hok)

/-- Every command among the outcomes is that of one of the sources. -/
theorem Judged.exists_realises (h : Judged doc env registry accepted sources outcomes)
    (hc : c ∈ commandsOf outcomes) : ∃ s ∈ sources, s.Realises doc env registry c := by
  induction h with
  | nil => cases hc
  | failed _ _ ih =>
    obtain ⟨s, hs, hreal⟩ := ih hc
    exact ⟨s, List.mem_cons_of_mem _ hs, hreal⟩
  | compiled _ hreal _ ih =>
    rcases List.mem_cons.1 hc with rfl | hc
    · exact ⟨_, List.mem_cons_self, hreal⟩
    · obtain ⟨s, hs, hreal⟩ := ih hc
      exact ⟨s, List.mem_cons_of_mem _ hs, hreal⟩

/-- No two commands have a name in common. -/
def NamesDisjoint (commands : List Command) : Prop :=
  commands.Pairwise fun c d => ∀ name ∈ c.names, name ∉ d.names

theorem Judged.namesDisjoint (h : Judged doc env registry accepted sources outcomes) :
    NamesDisjoint (commandsOf outcomes) ∧
      ∀ t ∈ accepted, ∀ c ∈ commandsOf outcomes, ∀ name ∈ t.names, name ∉ c.names := by
  induction h with
  | nil => exact ⟨.nil, by simp [commandsOf]⟩
  | failed _ _ ih => exact ih
  | @compiled accepted s rest outcomes c hfaults hc _ ih =>
    obtain ⟨hdisjoint, hfresh⟩ := ih
    have hclash : ¬s.Clashes accepted := fun hclash => by simp [Source.faults, hclash] at hfaults
    refine ⟨List.pairwise_cons.2 ⟨fun d hd name hname => ?_, hdisjoint⟩, fun t ht d hd => ?_⟩
    · exact hfresh s (by simp) d hd name (hc.names ▸ hname)
    · rcases List.mem_cons.1 hd with rfl | hd
      · exact fun name hname hname' => hclash ⟨t, ht, name, hname, hc.names ▸ hname'⟩
      · exact hfresh t (by simp [ht]) d hd

theorem compile_eq (doc : Document) (baseUrl : String) (env : Environment)
    {shared : SharedParameters} {progress : Progress}
    (hshared : (sharedParameters env doc.parameters).value = shared)
    (hprogress : (Source.all doc).foldl
      (fun p s => (Progress.add doc env shared.registry p s).value) ⟨[], shared.failures⟩ =
        progress) :
    (compile doc baseUrl env).run.value =
      if progress.failures = [] then .ok ⟨progress.commands, shared.registry, baseUrl⟩
      else .error ⟨progress.failures⟩ := by
  subst hshared
  unfold compile
  simp only [Logged.value_run_bind, Logged.value_run_lift, Except.ok_bind, Logged.value_foldlM,
    hprogress, List.isEmpty_iff]
  split <;> rfl

/-- What a document comes to: what its shared parameters and then its sources come to. -/
theorem compile_outcomes (doc : Document) (baseUrl : String) (env : Environment) :
    ∃ (registry : Registry) (sharedFailures : List Failure)
        (outcomes : List (Except FailureReason Command)),
      Shares env Registry.empty doc.parameters.entries sharedFailures registry ∧
      Judged doc env registry [] (Source.all doc) outcomes ∧
      (compile doc baseUrl env).run.value =
        if sharedFailures ++ failuresOf (Source.all doc) outcomes = [] then
          .ok ⟨commandsOf outcomes, registry, baseUrl⟩
        else .error ⟨sharedFailures ++ failuresOf (Source.all doc) outcomes⟩ := by
  have hshares := sharedParameters_shares env doc.parameters
  generalize hshared : (sharedParameters env doc.parameters).value = shared at hshares
  have hreflects : Progress.Reflects ⟨[], shared.failures⟩ [] := rfl
  obtain ⟨outcomes, hjudged, hfold⟩ :=
    Progress.foldl_add doc env shared.registry hreflects (Source.all doc)
  exact ⟨shared.registry, shared.failures, outcomes, hshares, hjudged,
    compile_eq doc baseUrl env hshared hfold⟩

/-- Every marked operation and every entry of a document, in order, comes to one command or to
one failure. There are commands only if no source and no shared parameter has failed, and else
all failures are reported, those of shared parameters first. -/
theorem compile_judges_all (doc : Document) (baseUrl : String) (env : Environment) :
    ∃ (origins : List Origin) (registry : Registry) (sharedFailures : List Failure)
        (outcomes : List (Except FailureReason Command)),
      (origins.Pairwise Origin.Before ∧ (∀ o : Origin, (o.source? doc).isSome → o ∈ origins) ∧
        Source.all doc = origins.filterMap (Origin.source? doc)) ∧
      Shares env Registry.empty doc.parameters.entries sharedFailures registry ∧
      Judged doc env registry [] (Source.all doc) outcomes ∧
      (compile doc baseUrl env).run.value =
        (if sharedFailures ++ failuresOf (Source.all doc) outcomes = [] then
          .ok ⟨commandsOf outcomes, registry, baseUrl⟩
        else .error ⟨sharedFailures ++ failuresOf (Source.all doc) outcomes⟩) ∧
      ∀ set, (compile doc baseUrl env).run.value = .ok set →
        List.Forall₂ (Source.Realises doc env registry) (Source.all doc) set.commands := by
  obtain ⟨registry, sharedFailures, outcomes, hshares, hjudged, hvalue⟩ :=
    compile_outcomes doc baseUrl env
  refine ⟨Origin.all doc, registry, sharedFailures, outcomes,
    ⟨Origin.pairwise_all doc, fun o => Origin.mem_all_of_source?, Origin.sources_eq doc⟩,
    hshares, hjudged, hvalue, fun set hset => ?_⟩
  rw [hvalue] at hset
  split at hset
  · next hnone =>
    cases hset
    exact hjudged.realises (List.append_eq_nil_iff.1 hnone).2
  · cases hset

end ApiCli

import ApiCli.Proofs.Command.References

/-!
# Documents in two environments

What of the commands of a document depends on the environment. A document is compiled in two
environments side by side, and each step keeps the two results related.

* `Flag.Resupplied` relates the flags of one declared parameter: they differ only in what the
  environment supplies, and only if it supplies the parameter's variable differently.
* `Registry.Counterpart`, `Command.Counterpart` and `CommandSet.Counterpart` lift that to everything
  that holds flags.
* `Registry.Counterpart.ofNode?`: what the registries hold are counterparts, so references compile to
  counterparts too.

**The environment only supplies values** (`compile_environments`): in both environments the document
fails in the same way, or compiles to counterparts. Nothing differs if the variables that the
document names are supplied alike.
-/

namespace ApiCli

variable {doc : Document} {env env' : Environment} {registry registry' : Registry}
  {p target : Parameter} {ps parameters : List Parameter} {f g : Flag} {flags flags' : Dict Flag}
  {c d : Command} {set set' : CommandSet}

/-- The value of a variable; a variable that is empty has none. -/
def Environment.supplied (env : Environment) (name : String) : Option String :=
  (env name).filter fun value => value ≠ ""

/-! ## Flags -/

/-- The flags that a parameter declared in place compiles to in two environments. -/
structure Flag.Resupplied (env env' : Environment) (target : Parameter) (f g : Flag) : Prop where
  compiled : f.CompiledFrom env target
  compiled' : g.CompiledFrom env' target
  rest : g = { f with
    required := g.required, default := g.default, envSupplied := g.envSupplied }
  varies : g ≠ f →
    f.fromEnv = true ∧ ∃ name ∈ target.env, env.supplied name ≠ env'.supplied name

/-- The flags of what a parameter stands for. -/
def Flag.Counterpart (doc : Document) (env env' : Environment) (p : Parameter) (f g : Flag) : Prop :=
  ∃ target, doc.StandsFor p target ∧ f.Resupplied env env' target g

namespace Flag

theorem envValue_eq (env : Environment) (p : Parameter) :
    envValue env p = p.env.bind env.supplied := by
  unfold envValue
  cases p.env <;> rfl

/-- The flag of a parameter whose type is supported. -/
theorem ofDeclared_of_type (env : Environment) {type : FlagType} (hbody : p.location.isBody = false)
    (hname : p.name ≠ "") (htype : FlagType.ofParameter? p = some type) :
    (ofDeclared env p).value = some {
      name := Text.kebab p.name
      paramName := p.name
      short := (shortOf p).value
      description := p.description.getD ""
      type
      location := p.location
      required := p.required && (envValue env p).isNone
      default := envValue env p <|> p.default.bind defaultText
      fromEnv := p.env.isSome
      envSupplied := (envValue env p).isSome } := by
  rw [ofDeclared, if_neg (by simp [hbody]), if_neg hname, htype]
  rfl

theorem resupplied_ofDeclared (env env' : Environment) (p : Parameter) :
    Option.Rel (Resupplied env env' p) (ofDeclared env p).value (ofDeclared env' p).value := by
  cases hbody : p.location.isBody with
  | true =>
    simp only [ofDeclared, hbody]
    exact .none
  | false =>
    by_cases hname : p.name = ""
    · simp only [ofDeclared, hbody, hname]
      exact .none
    · cases htype : FlagType.ofParameter? p with
      | none =>
        simp only [ofDeclared, hbody, hname, htype]
        exact .none
      | some type =>
        have hvalue := ofDeclared_of_type env hbody hname htype
        have hvalue' := ofDeclared_of_type env' hbody hname htype
        rw [hvalue, hvalue']
        refine .some ⟨⟨_, hvalue⟩, ⟨_, hvalue'⟩, rfl, fun hne => ?_⟩
        -- were the variable supplied alike, the flags would be the same
        cases henv : p.env with
        | none => simp [envValue_eq, henv] at hne
        | some name =>
          refine ⟨rfl, name, rfl, fun hsame => hne ?_⟩
          simp only [envValue_eq, henv, Option.bind_some, hsame]

/-- The short alias does not matter. -/
theorem Resupplied.withShort (h : f.Resupplied env env' target g) (short : Option Char) :
    ({ f with short } : Flag).Resupplied env env' target { g with short } where
  compiled := h.compiled
  compiled' := h.compiled'
  rest := by
    rw [h.rest]
  varies hne := h.varies fun heq => hne (by rw [heq])

theorem Counterpart.withShort (h : f.Counterpart doc env env' p g) (short : Option Char) :
    ({ f with short } : Flag).Counterpart doc env env' p { g with short } := by
  obtain ⟨target, htarget, h⟩ := h
  exact ⟨target, htarget, h.withShort short⟩

theorem Counterpart.name_eq (h : f.Counterpart doc env env' p g) : g.name = f.name := by
  obtain ⟨target, -, h⟩ := h
  rw [h.rest]

theorem Counterpart.short_eq (h : f.Counterpart doc env env' p g) : g.short = f.short := by
  obtain ⟨target, -, h⟩ := h
  rw [h.rest]

end Flag

/-! ## Shared parameters -/

/-- Everything held comes from the same shared parameters. -/
def Registry.Counterpart (doc : Document) (env env' : Environment) :
    Registry → Registry → Prop :=
  Dict.RelatedAt fun r held held' => ∃ name p, r = Flag.reference name ∧
    doc.parameters.get? name = some p ∧ Option.Rel (Flag.Counterpart doc env env' p) held held'

namespace Registry.Counterpart

theorem missing?_eq (h : Counterpart doc env env' registry registry') (p : Parameter) :
    registry'.missing? p = registry.missing? p := by
  unfold missing? resolve
  congr 1
  funext r
  have hr := h.get? r
  generalize registry.get? r = held, registry'.get? r = held' at hr
  cases hr <;> rfl

theorem ofNode? (h : Counterpart doc env env' registry registry') (p : Parameter) :
    Option.Rel (Flag.Counterpart doc env env' p) (Flag.ofNode? env registry p)
      (Flag.ofNode? env' registry' p) := by
  unfold Flag.ofNode? resolve
  cases hreference : p.reference with
  | none =>
    have hflags := Flag.resupplied_ofDeclared env env' p
    dsimp only
    generalize (Flag.ofDeclared env p).value = f, (Flag.ofDeclared env' p).value = g at hflags
    cases hflags with
    | none => exact .none
    | some hflag => exact .some ⟨p, .declared hreference, hflag⟩
  | some r =>
    have hr := h.get? r
    dsimp only
    generalize registry.get? r = held, registry'.get? r = held' at hr
    cases hr with
    | none => exact .none
    | some hheld =>
      obtain ⟨name, q, rfl, hq, hflags⟩ := hheld
      cases hflags with
      | none => exact .none
      | some hflag =>
        obtain ⟨target, htarget, hflag⟩ := hflag
        exact .some ⟨target, .shared hreference hq htarget, hflag⟩

end Registry.Counterpart

structure SharedParameters.Counterpart (doc : Document) (env env' : Environment)
    (s s' : SharedParameters) : Prop where
  registry : Registry.Counterpart doc env env' s.registry s'.registry
  failures : s'.failures = s.failures

theorem SharedParameters.Counterpart.add {s s' : SharedParameters} {name : String}
    (h : s.Counterpart doc env env' s') (hp : doc.parameters.get? name = some p) :
    (s.add env name p).value.Counterpart doc env env' (s'.add env' name p).value := by
  rw [SharedParameters.add_value, SharedParameters.add_value, h.registry.missing?_eq, h.failures]
  have hheld : Option.Rel (Flag.Counterpart doc env env' p)
      (SharedParameters.held env s.registry p) (SharedParameters.held env' s'.registry p) := by
    unfold SharedParameters.held
    split
    · exact .none
    · exact h.registry.ofNode? p
  split
  · exact ⟨h.registry, rfl⟩
  · exact ⟨h.registry.insert ⟨name, p, rfl, hp, hheld⟩, rfl⟩

theorem sharedParameters_counterpart (doc : Document) (env env' : Environment) :
    (sharedParameters env doc.parameters).value.Counterpart doc env env'
      (sharedParameters env' doc.parameters).value := by
  rw [sharedParameters, sharedParameters, Logged.value_foldlM, Logged.value_foldlM]
  refine List.foldl_rel ⟨Dict.relatedAt_empty, rfl⟩ fun e he s s' h => ?_
  exact h.add (Dict.get?_eq_some_iff.2 he)

/-! ## Flags of a command -/

/-- The flags of what one of the parameters stands for. -/
def Flag.CounterpartIn (doc : Document) (env env' : Environment) (ps : List Parameter)
    (f g : Flag) : Prop :=
  ∃ p ∈ ps, f.Counterpart doc env env' p g

/-- Under each name, the flags of what one of the parameters stands for. -/
def FlagsCounterpart (doc : Document) (env env' : Environment) (ps : List Parameter) :
    Dict Flag → Dict Flag → Prop :=
  Dict.RelatedAt fun _ => Flag.CounterpartIn doc env env' ps

theorem insertFlag_counterpart (hregistry : Registry.Counterpart doc env env' registry registry')
    (hp : p ∈ ps) (h : FlagsCounterpart doc env env' ps flags flags') :
    FlagsCounterpart doc env env' ps (insertFlag env registry flags p)
      (insertFlag env' registry' flags' p) := by
  unfold insertFlag
  have hnode := hregistry.ofNode? p
  generalize Flag.ofNode? env registry p = f, Flag.ofNode? env' registry' p = g at hnode
  cases hnode with
  | none => exact h
  | some hflag =>
    dsimp only
    rw [hflag.name_eq]
    split
    · exact h
    · exact h.insert ⟨p, hp, hflag⟩

/-- The short aliases seen are the same, so the same ones are kept. -/
theorem keepShort_counterpart (seen : List Char) (h : f.CounterpartIn doc env env' ps g) :
    (keepShort seen f).1 = (keepShort seen g).1 ∧
      Flag.CounterpartIn doc env env' ps (keepShort seen f).2.1 (keepShort seen g).2.1 := by
  obtain ⟨p, hp, hflag⟩ := h
  unfold keepShort
  rw [hflag.short_eq]
  split
  · exact ⟨rfl, p, hp, hflag⟩
  · split
    · exact ⟨rfl, p, hp, hflag.withShort none⟩
    · exact ⟨rfl, p, hp, hflag⟩

theorem compileFlags_counterpart
    (hregistry : Registry.Counterpart doc env env' registry registry') (ps : List Parameter) :
    Except.Related (FlagsCounterpart doc env env' ps)
      (compileFlags env registry ps).run.value (compileFlags env' registry' ps).run.value := by
  have hmissing : registry'.missing? = registry.missing? := funext hregistry.missing?_eq
  rw [compileFlags_value, compileFlags_value, hmissing]
  cases ps.findSome? registry.missing? with
  | some r => exact .error _
  | none =>
    have hflags : FlagsCounterpart doc env env' ps
        (ps.foldl (insertFlag env registry) Dict.empty)
        (ps.foldl (insertFlag env' registry') Dict.empty) :=
      List.foldl_rel Dict.relatedAt_empty fun p hp _ _ h => insertFlag_counterpart hregistry hp h
    have hkept : Dict.RelatedAt (fun _ a b => Flag.CounterpartIn doc env env' ps a.1 b.1)
        ((ps.foldl (insertFlag env registry) Dict.empty).scan keepShort ['h'])
        ((ps.foldl (insertFlag env' registry') Dict.empty).scan keepShort ['h']) :=
      hflags.scan (fun _ seen _ _ h => keepShort_counterpart seen h) ['h']
    exact .ok (hkept.map fun _ _ _ h => h)

/-! ## Commands -/

/-- Only the flags may differ, and these as those of the command's parameters. -/
structure Command.Counterpart (doc : Document) (env env' : Environment) (c d : Command) :
    Prop where
  rest : d = { c with flags := d.flags }
  flags : FlagsCounterpart doc env env' (Source.parameters doc c.method c.path) c.flags d.flags

theorem Source.compile_counterpart
    (hregistry : Registry.Counterpart doc env env' registry registry') (s : Source) :
    Except.Related (Command.Counterpart doc env env') (s.compile doc env registry).run.value
      (s.compile doc env' registry').run.value := by
  rw [Source.compile_eq_heading, Source.compile_eq_heading]
  cases s.heading with
  | error e => exact .error e
  | ok heading =>
    refine ((compileFlags_counterpart hregistry _).mapError _).map fun flags flags' h => ?_
    exact ⟨rfl, h⟩

theorem Command.Counterpart.names_eq (h : c.Counterpart doc env env' d) : d.names = c.names := by
  rw [h.rest, Command.names, Command.names]

structure Progress.Counterpart (doc : Document) (env env' : Environment)
    (progress progress' : Progress) : Prop where
  commands : List.Forall₂ (Command.Counterpart doc env env') progress.commands progress'.commands
  failures : progress'.failures = progress.failures

namespace Progress.Counterpart

variable {progress progress' : Progress}

theorem isTaken_eq (h : progress.Counterpart doc env env' progress')
    (hc : c.Counterpart doc env env' d) : progress'.isTaken d = progress.isTaken c := by
  have hnamed (name : String) : (progress'.commands.any fun d => d.isNamed name) =
      progress.commands.any fun d => d.isNamed name := by
    have hcommands := h.commands
    generalize progress.commands = commands, progress'.commands = commands' at hcommands
    induction hcommands with
    | nil => rfl
    | cons hcd _ ih =>
      rw [List.any_cons, List.any_cons, ih, Command.isNamed, Command.isNamed, hcd.names_eq]
  rw [isTaken, isTaken, hc.names_eq]
  simp only [hnamed]

theorem add (h : progress.Counterpart doc env env' progress')
    (hregistry : Registry.Counterpart doc env env' registry registry') (s : Source) :
    (progress.add doc env registry s).value.Counterpart doc env env'
      (progress'.add doc env' registry' s).value := by
  rw [add_value, add_value, h.failures]
  have hsource : Except.Related (Command.Counterpart doc env env') _ _ :=
    s.compile_counterpart hregistry
  generalize (s.compile doc env registry).run.value = outcome,
    (s.compile doc env' registry').run.value = outcome' at hsource
  cases hsource with
  | error e => exact ⟨h.commands, rfl⟩
  | ok hc =>
    dsimp only
    rw [h.isTaken_eq hc]
    split
    · exact ⟨h.commands, rfl⟩
    · exact ⟨List.rel_append h.commands (.cons hc .nil), rfl⟩

end Progress.Counterpart

/-! ## Documents -/

structure CommandSet.Counterpart (doc : Document) (env env' : Environment)
    (set set' : CommandSet) : Prop where
  commands : List.Forall₂ (Command.Counterpart doc env env') set.commands set'.commands
  parameters : Registry.Counterpart doc env env' set.parameters set'.parameters
  baseUrl : set'.baseUrl = set.baseUrl

theorem compile_counterpart (doc : Document) (baseUrl : String) (env env' : Environment) :
    Except.Related (CommandSet.Counterpart doc env env') (compile doc baseUrl env).run.value
      (compile doc baseUrl env').run.value := by
  have hshared := sharedParameters_counterpart doc env env'
  rw [compile_eq doc baseUrl env rfl rfl, compile_eq doc baseUrl env' rfl rfl]
  generalize (sharedParameters env doc.parameters).value = shared,
    (sharedParameters env' doc.parameters).value = shared' at hshared
  have hprogress : Progress.Counterpart doc env env'
      ((Source.all doc).foldl
        (fun p s => (Progress.add doc env shared.registry p s).value) ⟨[], shared.failures⟩)
      ((Source.all doc).foldl
        (fun p s => (Progress.add doc env' shared'.registry p s).value) ⟨[], shared'.failures⟩) :=
    List.foldl_rel ⟨.nil, hshared.failures⟩ fun s _ _ _ h => h.add hshared.registry s
  rw [hprogress.failures]
  split
  · exact .ok ⟨hprogress.commands, hshared.registry, rfl⟩
  · exact .error _

/-! ## Variables that are supplied alike -/

/-- The environments supply the variables that the document names with the same values. -/
def Document.SuppliedAlike (doc : Document) (env env' : Environment) : Prop :=
  ∀ p ∈ doc.allParameters, ∀ name ∈ p.env, env.supplied name = env'.supplied name

theorem Flag.Counterpart.eq (h : f.Counterpart doc env env' p g)
    (hsupplied : doc.SuppliedAlike env env') (hp : p ∈ doc.allParameters) : f = g := by
  obtain ⟨target, htarget, h⟩ := h
  by_contra hne
  obtain ⟨-, name, hname, hvaries⟩ := h.varies (Ne.symm hne)
  exact hvaries (hsupplied target (htarget.mem_allParameters hp) name hname)

theorem Registry.Counterpart.eq (h : Registry.Counterpart doc env env' registry registry')
    (hsupplied : doc.SuppliedAlike env env') : registry = registry' := by
  refine Dict.RelatedAt.eq h fun r held held' hheld => ?_
  obtain ⟨name, p, -, hp, hflags⟩ := hheld
  have hall : p ∈ doc.allParameters :=
    List.mem_append_left _ (Dict.mem_values_iff.2 ⟨name, hp⟩)
  cases hflags with
  | none => rfl
  | some hflag => rw [hflag.eq hsupplied hall]

theorem Command.Counterpart.eq (h : c.Counterpart doc env env' d)
    (hsupplied : doc.SuppliedAlike env env') : c = d := by
  have hflags : c.flags = d.flags := h.flags.eq fun _ f g ⟨p, hp, hflag⟩ =>
    hflag.eq hsupplied (Source.mem_allParameters_of_parameters hp)
  rw [h.rest, ← hflags]

theorem CommandSet.Counterpart.eq (h : set.Counterpart doc env env' set')
    (hsupplied : doc.SuppliedAlike env env') : set = set' := by
  have hcommands : set.commands = set'.commands :=
    List.forall₂_eq_eq_eq ▸ h.commands.imp fun _ _ hc => hc.eq hsupplied
  have hparameters := h.parameters.eq hsupplied
  have hbaseUrl := h.baseUrl.symm
  cases set
  cases set'
  congr

/-- In two environments a document fails with the same failures, or it compiles to commands and
shared flags that differ only in what the environments supply differently. If they supply the
variables that the document names alike, nothing differs. -/
theorem compile_environments (doc : Document) (baseUrl : String) (env env' : Environment) :
    Except.Related (CommandSet.Counterpart doc env env') (compile doc baseUrl env).run.value
        (compile doc baseUrl env').run.value ∧
      (doc.SuppliedAlike env env' →
        (compile doc baseUrl env).run.value = (compile doc baseUrl env').run.value) := by
  have h := compile_counterpart doc baseUrl env env'
  refine ⟨h, fun hsupplied => ?_⟩
  generalize (compile doc baseUrl env).run.value = outcome,
    (compile doc baseUrl env').run.value = outcome' at h
  cases h with
  | error e => rfl
  | ok hset => rw [hset.eq hsupplied]

end ApiCli

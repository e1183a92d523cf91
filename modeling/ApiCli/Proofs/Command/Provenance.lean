import ApiCli.Proofs.Command.Compilation

/-!
# Where flags come from

Every flag of a compiled command comes from a parameter that is declared in place.

* `Document.StandsFor` follows references from a parameter to a declared one.
* `Flag.CompiledFrom` says that a flag is what a declared parameter compiles to, and
  `Flag.DeclaredBy` what it takes from the parameter and from the environment.
* `WellKept` is the invariant of a command's flags: each is held under its own name, which is not
  reserved, and is compiled from what one of the parameters stands for.

`wellKept_of_compile`: the flags of the commands of a document are well kept.
-/

namespace ApiCli

/-- A parameter stands for itself when it is declared in place, and else for what the shared
parameter it refers to stands for. -/
inductive Document.StandsFor (doc : Document) : Parameter → Parameter → Prop
  | declared : p.reference = none → StandsFor doc p p
  | shared : p.reference = some (Flag.reference name) → doc.parameters.get? name = some q →
      StandsFor doc q target → StandsFor doc p target

/-- A flag is that of a parameter declared in place, its short alias apart. -/
structure Flag.DeclaredBy (env : Environment) (p : Parameter) (f : Flag) : Prop where
  name : f.name = Text.kebab p.name
  paramName : f.paramName = p.name
  type : FlagType.ofParameter? p = some f.type
  location : f.location = p.location
  outside : p.location.isBody = false
  required : f.required = (p.required && (envValue env p).isNone)
  default : f.default = (envValue env p <|> p.default.bind defaultText)
  envSupplied : f.envSupplied = (envValue env p).isSome

variable {doc : Document} {env : Environment} {registry : Registry} {set : CommandSet}
  {p : Parameter} {ps parameters : List Parameter} {f : Flag} {flags : Dict Flag} {c : Command}

namespace Flag

theorem declaredBy_of_ofDeclared (h : (ofDeclared env p).value = some f) : f.DeclaredBy env p := by
  unfold ofDeclared at h
  split at h
  · cases h
  · next hbody =>
    split at h
    · cases h
    · cases htype : FlagType.ofParameter? p with
      | none => rw [htype] at h; cases h
      | some type =>
        rw [htype] at h
        cases h
        exact ⟨rfl, rfl, htype, rfl, by simpa using hbody, rfl, rfl, rfl⟩

theorem DeclaredBy.withShort (h : f.DeclaredBy env p) (short : Option Char) :
    ({ f with short } : Flag).DeclaredBy env p :=
  ⟨h.name, h.paramName, h.type, h.location, h.outside, h.required, h.default, h.envSupplied⟩

/-- A flag is what a parameter declared in place compiles to, its short alias apart. -/
def CompiledFrom (env : Environment) (p : Parameter) (f : Flag) : Prop :=
  ∃ short, (ofDeclared env p).value = some { f with short }

theorem compiledFrom_of_ofDeclared (h : (ofDeclared env p).value = some f) :
    f.CompiledFrom env p :=
  ⟨f.short, h⟩

theorem CompiledFrom.declaredBy (h : f.CompiledFrom env p) : f.DeclaredBy env p := by
  obtain ⟨short, h⟩ := h
  exact (declaredBy_of_ofDeclared h).withShort f.short

end Flag

/-- A flag is compiled from what a parameter stands for. -/
def Flag.ComesFrom (doc : Document) (env : Environment) (p : Parameter) (f : Flag) : Prop :=
  ∃ target, doc.StandsFor p target ∧ f.CompiledFrom env target

/-- Every flag of a registry comes from the shared parameter of its reference. -/
def Registry.Sound (doc : Document) (env : Environment) (registry : Registry) : Prop :=
  ∀ r held, registry.get? r = some held → ∀ f ∈ held, ∃ name p, r = Flag.reference name ∧
    doc.parameters.get? name = some p ∧ f.ComesFrom doc env p

namespace Registry

theorem sound_empty (doc : Document) (env : Environment) : Sound doc env Registry.empty := by
  intro r held h
  cases h

theorem Sound.comesFrom (h : Sound doc env registry)
    (hf : Flag.ofNode? env registry p = some f) : f.ComesFrom doc env p := by
  unfold Flag.ofNode? at hf
  cases hreference : p.reference with
  | none =>
    rw [hreference] at hf
    exact ⟨p, .declared hreference, Flag.compiledFrom_of_ofDeclared hf⟩
  | some r =>
    rw [hreference] at hf
    obtain ⟨name, q, rfl, hq, target, htarget, hcompiled⟩ :=
      h r (some f) (Option.join_eq_some_iff.1 hf) f rfl
    exact ⟨target, .shared hreference hq htarget, hcompiled⟩

theorem Sound.add (h : Sound doc env registry) (hp : doc.parameters.get? name = some p)
    (hheld : ∀ f ∈ held, f.ComesFrom doc env p) : Sound doc env (registry.add name held) :=
  Dict.forall_get?_insert h fun f hf => ⟨name, p, rfl, hp, hheld f hf⟩

end Registry

theorem Shares.sound (h : Shares env registry entries failures final)
    (hentries : ∀ e ∈ entries, doc.parameters.get? e.1 = some e.2)
    (hsound : registry.Sound doc env) : final.Sound doc env := by
  induction h with
  | nil => exact hsound
  | missing _ _ _ ih => exact ih (fun e he => hentries e (List.mem_cons_of_mem _ he)) hsound
  | held _ _ ih =>
    refine ih (fun e he => hentries e (List.mem_cons_of_mem _ he))
      (hsound.add (hentries _ List.mem_cons_self) fun f hf => ?_)
    unfold SharedParameters.held at hf
    split at hf
    · cases hf
    · exact hsound.comesFrom hf

/-- Every flag is held under its own name, which is not reserved, and comes from one of the
parameters. -/
def WellKept (doc : Document) (env : Environment) (parameters : List Parameter)
    (flags : Dict Flag) : Prop :=
  ∀ name f, flags.get? name = some f → f.name = name ∧ name ∉ reservedFlags ∧
    ∃ p ∈ parameters, f.ComesFrom doc env p

theorem WellKept.name_of_mem (h : WellKept doc env parameters flags)
    (hf : f ∈ flags.values) : flags.get? f.name = some f ∧ f.name ∉ reservedFlags ∧
      ∃ p ∈ parameters, ∃ target, doc.StandsFor p target ∧ f.DeclaredBy env target := by
  obtain ⟨name, hget⟩ := Dict.mem_values_iff.1 hf
  obtain ⟨rfl, hreserved, p, hp, target, htarget, hcompiled⟩ := h name f hget
  exact ⟨hget, hreserved, p, hp, target, htarget, hcompiled.declaredBy⟩

theorem WellKept.names (h : WellKept doc env parameters flags) :
    flags.values.map (·.name) = flags.keys := by
  rw [Dict.values, Dict.keys, List.map_map]
  refine List.map_congr_left fun e he => ?_
  exact (h e.1 e.2 (Dict.get?_eq_some_iff.2 he)).1

theorem WellKept.ordered (h : WellKept doc env parameters flags) :
    flags.values.Pairwise fun f g => f.name < g.name := by
  have hkeys : (flags.values.map (·.name)).Pairwise (· < ·) := by
    rw [h.names]
    exact Dict.keysIncrease_iff.1 flags.increase
  exact List.pairwise_map.1 hkeys

theorem WellKept.name_eq_kebab (h : WellKept doc env parameters flags) (hf : f ∈ flags.values) :
    f.name = Text.kebab f.paramName := by
  obtain ⟨-, -, p, -, target, -, hdeclared⟩ := h.name_of_mem hf
  rw [hdeclared.name, hdeclared.paramName]

theorem WellKept.insertFlag (h : WellKept doc env parameters flags)
    (hsound : registry.Sound doc env) (hp : p ∈ parameters) :
    WellKept doc env parameters (insertFlag env registry flags p) := by
  unfold ApiCli.insertFlag
  cases hnode : Flag.ofNode? env registry p with
  | none => exact h
  | some f =>
    dsimp only
    split
    · exact h
    · next hreserved =>
      exact Dict.forall_get?_insert h
        ⟨rfl, by simpa using hreserved, p, hp, hsound.comesFrom hnode⟩

theorem WellKept.foldl_insertFlag (h : WellKept doc env parameters flags)
    (hsound : registry.Sound doc env) (hps : ∀ p ∈ ps, p ∈ parameters) :
    WellKept doc env parameters (ps.foldl (ApiCli.insertFlag env registry) flags) := by
  induction ps generalizing flags with
  | nil => exact h
  | cons p ps ih =>
    exact ih (h.insertFlag hsound (hps p List.mem_cons_self))
      fun q hq => hps q (List.mem_cons_of_mem _ hq)

theorem wellKept_of_compileFlags (hsound : registry.Sound doc env)
    (h : (compileFlags env registry ps).run.value = .ok flags) : WellKept doc env ps flags := by
  rw [compileFlags_value] at h
  split at h
  · cases h
  · cases h
    intro name f hf
    obtain ⟨before, short, hbefore, rfl⟩ := get?_dedupeShorts hf
    have hempty : WellKept doc env ps Dict.empty := fun name f hf => by cases hf
    obtain ⟨hname, hreserved, p, hp, target, htarget, hcompiled⟩ :=
      hempty.foldl_insertFlag hsound (fun _ hp => hp) name before hbefore
    exact ⟨hname, hreserved, p, hp, target, htarget, hcompiled⟩

/-- The flags of a command are those of its parameters, against what the shared parameters come
to. -/
theorem exists_compileFlags (h : (compile doc baseUrl env).run.value = .ok set)
    (hc : c ∈ set.commands) :
    ∃ registry failures, Shares env Registry.empty doc.parameters.entries failures registry ∧
      (compileFlags env registry (Source.parameters doc c.method c.path)).run.value =
        .ok c.flags := by
  obtain ⟨registry, sharedFailures, outcomes, hshares, hjudged, hvalue⟩ :=
    compile_outcomes doc baseUrl env
  rw [hvalue] at h
  split at h
  · cases h
    obtain ⟨s, -, hs⟩ := hjudged.exists_realises hc
    have hflags := hs.flags
    rw [Source.declared_eq doc hs.path hs.method] at hflags
    exact ⟨registry, sharedFailures, hshares, hflags⟩
  · cases h

/-- The flags of the commands of a document are well kept. -/
theorem wellKept_of_compile (h : (compile doc baseUrl env).run.value = .ok set)
    (hc : c ∈ set.commands) :
    WellKept doc env (Source.parameters doc c.method c.path) c.flags := by
  obtain ⟨registry, failures, hshares, hflags⟩ := exists_compileFlags h hc
  have hsound := hshares.sound (fun e he => Dict.get?_eq_some_iff.2 he)
    (Registry.sound_empty doc env)
  exact wellKept_of_compileFlags hsound hflags

theorem baseUrl_of_compile (h : (compile doc baseUrl env).run.value = .ok set) :
    set.baseUrl = baseUrl := by
  obtain ⟨registry, sharedFailures, outcomes, -, -, hvalue⟩ := compile_outcomes doc baseUrl env
  rw [hvalue] at h
  split at h
  · cases h
    rfl
  · cases h

/-- No two commands of a document have a name in common. -/
theorem namesDisjoint_of_compile (h : (compile doc baseUrl env).run.value = .ok set) :
    NamesDisjoint set.commands := by
  obtain ⟨registry, sharedFailures, outcomes, -, hjudged, hvalue⟩ :=
    compile_outcomes doc baseUrl env
  rw [hvalue] at h
  split at h
  · cases h
    exact hjudged.namesDisjoint.1
  · cases h

end ApiCli

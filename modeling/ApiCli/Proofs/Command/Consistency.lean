import ApiCli.Proofs.Command.Provenance

/-!
# Consistency of flags

What holds of the flags of every compiled command, whichever way they came to it: from a parameter
declared in place or through references, with or without a later flag of the same name.

* `Flag.Consistent` says how the data of a flag agree with each other. It holds of what a parameter
  compiles to, and the short alias does not matter for it.
* `shorts_dedupeShorts` is about the pass over all flags: the aliases it keeps are distinct, and none
  is that of help. The aliases seen so far are what carries the induction.

**The flags of a command** (`flags_consistent_of_compile`): each is held under its own name, is
consistent and has a declaration; their short aliases are distinct.
-/

namespace ApiCli

variable {doc : Document} {env : Environment} {set : CommandSet} {c : Command} {f : Flag}
  {p : Parameter}

/-! ## One flag -/

/-- The data of a flag agree with each other. -/
structure Flag.Consistent (f : Flag) : Prop where
  name : f.name = Text.kebab f.paramName
  notBody : f.location ≠ .body
  notForm : f.location ≠ .formData
  /-- What the environment supplies is a default that is not empty, so that the command line need
  not give the flag. -/
  supplied : f.envSupplied = true →
    f.fromEnv = true ∧ f.required = false ∧ ∃ value ≠ "", f.default = some value

namespace Flag

theorem envValue_eq_some (h : envValue env p = some value) : p.env.isSome ∧ value ≠ "" := by
  obtain ⟨hbind, hne⟩ := Option.mem_filter_iff.1 h
  obtain ⟨name, hname, -⟩ := Option.bind_eq_some_iff.1 hbind
  exact ⟨by simp [hname], by simpa using hne⟩

theorem CompiledFrom.fromEnv (h : f.CompiledFrom env p) : f.fromEnv = p.env.isSome := by
  obtain ⟨short, h⟩ := h
  unfold ofDeclared at h
  split at h
  · cases h
  · split at h
    · cases h
    · cases htype : FlagType.ofParameter? p with
      | none => rw [htype] at h; cases h
      | some type =>
        rw [htype] at h
        exact (congrArg Flag.fromEnv (Option.some.inj h)).symm

theorem CompiledFrom.consistent (h : f.CompiledFrom env p) : f.Consistent := by
  have hdeclared := h.declaredBy
  have houtside : f.location.isBody = false := hdeclared.location ▸ hdeclared.outside
  refine ⟨?_, ?_, ?_, fun hsupplied => ?_⟩
  · rw [hdeclared.name, hdeclared.paramName]
  · intro hbody
    rw [hbody] at houtside
    cases houtside
  · intro hform
    rw [hform] at houtside
    cases houtside
  · rw [hdeclared.envSupplied] at hsupplied
    obtain ⟨value, hvalue⟩ := Option.isSome_iff_exists.1 hsupplied
    obtain ⟨henv, hne⟩ := envValue_eq_some hvalue
    refine ⟨h.fromEnv.trans henv, ?_, value, hne, ?_⟩
    · simp [hdeclared.required, hvalue]
    · simp [hdeclared.default, hvalue]

/-- A flag that the environment does not supply is as required as its declaration. -/
theorem DeclaredBy.required_of_not_supplied (h : f.DeclaredBy env p)
    (hsupplied : f.envSupplied = false) : f.required = p.required := by
  have hnone : envValue env p = none := by simpa [h.envSupplied] using hsupplied
  simp [h.required, hnone]

end Flag

/-! ## Short aliases -/

/-- The short aliases of flags, in the order of the flags. -/
def shortAliases (flags : Dict Flag) : List Char := flags.values.filterMap (·.short)

/-- Only short aliases that have not been seen are kept, and each is seen from then on. -/
theorem shorts_scanEntries (seen : List Char) (entries : List (String × Flag)) :
    ((Dict.scanEntries keepShort seen entries).filterMap fun e => e.2.1.short).Nodup ∧
      ∀ c ∈ (Dict.scanEntries keepShort seen entries).filterMap fun e => e.2.1.short,
        c ∉ seen := by
  induction entries generalizing seen with
  | nil => simp [Dict.scanEntries]
  | cons e rest ih =>
    obtain ⟨name, flag⟩ := e
    rw [Dict.scanEntries]
    cases hshort : flag.short with
    | none => simpa [keepShort, hshort] using ih seen
    | some c =>
      by_cases hc : c ∈ seen
      · simpa [keepShort, hshort, hc] using ih seen
      · obtain ⟨hnodup, hnew⟩ := ih (c :: seen)
        simp only [keepShort, hshort, List.contains_iff_mem, hc, if_false, List.filterMap_cons]
        refine ⟨List.nodup_cons.2 ⟨fun hmem => hnew c hmem List.mem_cons_self, hnodup⟩, ?_⟩
        intro d hd
        rcases List.mem_cons.1 hd with rfl | hd
        · exact hc
        · exact fun hseen => hnew d hd (List.mem_cons_of_mem _ hseen)

/-- The short aliases that are kept are distinct, and none is that of help. -/
theorem shorts_dedupeShorts (flags : Dict Flag) :
    (shortAliases (dedupeShorts flags).value).Nodup ∧
      'h' ∉ shortAliases (dedupeShorts flags).value := by
  have hshorts : shortAliases (dedupeShorts flags).value =
      (Dict.scanEntries keepShort ['h'] flags.entries).filterMap fun e => e.2.1.short := by
    simp [shortAliases, dedupeShorts, Dict.values, Dict.map, Dict.scan, List.filterMap_map,
      Function.comp_def]
  obtain ⟨hnodup, hnew⟩ := shorts_scanEntries ['h'] flags.entries
  rw [hshorts]
  exact ⟨hnodup, fun hmem => hnew 'h' hmem List.mem_cons_self⟩

theorem shorts_of_compile (h : (compile doc baseUrl env).run.value = .ok set)
    (hc : c ∈ set.commands) : (shortAliases c.flags).Nodup ∧ 'h' ∉ shortAliases c.flags := by
  obtain ⟨registry, failures, -, hflags⟩ := exists_compileFlags h hc
  rw [compileFlags_value] at hflags
  split at hflags
  · cases hflags
  · rw [← Except.ok.inj hflags]
    exact shorts_dedupeShorts _

/-! ## All flags of a command -/

/-- Every flag of a command is held under its own name, which is not reserved; its data agree with
each other, and it is compiled from what one of the command's parameters stands for. The short
aliases are distinct, and none is that of help. -/
theorem flags_consistent_of_compile (h : (compile doc baseUrl env).run.value = .ok set)
    (hc : c ∈ set.commands) :
    (∀ key f, c.flags.get? key = some f →
      key = f.name ∧ key ∉ reservedFlags ∧ f.Consistent ∧
        ∃ p ∈ Source.parameters doc c.method c.path, ∃ target, doc.StandsFor p target ∧
          f.CompiledFrom env target ∧
          (f.envSupplied = false → f.required = target.required)) ∧
      (shortAliases c.flags).Nodup ∧ 'h' ∉ shortAliases c.flags := by
  refine ⟨fun key f hget => ?_, shorts_of_compile h hc⟩
  obtain ⟨hname, hreserved, p, hp, target, htarget, hcompiled⟩ :=
    wellKept_of_compile h hc key f hget
  exact ⟨hname.symm, hreserved, hcompiled.consistent, p, hp, target, htarget, hcompiled,
    hcompiled.declaredBy.required_of_not_supplied⟩

/-! ## A sample

A command with a shared parameter that the environment supplies and whose short alias is taken by
help, and with two parameters declared in place that want the same short alias. -/

namespace Consistency

/-- A query parameter with a short alias. -/
def parameter (name : String) (required : Bool) (short : String) : Parameter :=
  { Parameter.empty with
    name, required
    location := .query
    type := some "string"
    short := some short }

/-- A document with the shared parameter `key` and one command. -/
def document : Document :=
  let list : Operation := { Operation.empty with
    command := some "list"
    parameters := [
      { Parameter.empty with reference := some "#/parameters/key" },
      parameter "pageSize" true "p",
      parameter "parent" false "p"] }
  { Document.empty with
    parameters := Dict.empty.insert "key" { parameter "apiKey" true "h" with env := some "KEY" }
    paths := Dict.empty.insert "/items" (PathItem.empty.setOperation .get (some list)) }

/-- The environment supplies the shared parameter. -/
def environment : Environment := fun name => if name = "KEY" then some "secret" else none

def flag (name paramName : String) (short : Option Char) (required : Bool) : Flag :=
  { name, paramName, short, required
    description := ""
    type := .single .string
    location := .query
    default := none
    fromEnv := false
    envSupplied := false }

/-- The flag of the shared parameter, with the short alias that the registry holds. -/
def keyFlag (short : Option Char) : Flag :=
  { flag "api-key" "apiKey" short false with
    default := some "secret"
    fromEnv := true
    envSupplied := true }

def command : Command :=
  { name := "list"
    aliases := []
    method := .get
    path := "/items"
    summary := ""
    description := ""
    flags := Dict.ofList [("api-key", keyFlag none),
      ("page-size", flag "page-size" "pageSize" (some 'p') true),
      ("parent", flag "parent" "parent" none false)]
    isDefault := false }

def commands : CommandSet :=
  ⟨[command], Registry.empty.add "key" (some (keyFlag (some 'h'))), "http://h"⟩

end Consistency

open Consistency in
/-- The flag of the shared parameter is supplied, that of `pageSize` is required as declared and
keeps the only short alias. -/
theorem flags_consistent_of_compile_shared :
    (compile document "http://h" environment).run.value = .ok commands ∧
      (keyFlag none).Consistent ∧
      (∃ p ∈ Source.parameters document .get "/items", ∃ target, document.StandsFor p target ∧
        (keyFlag none).CompiledFrom environment target) ∧
      (∃ p ∈ Source.parameters document .get "/items", ∃ target, document.StandsFor p target ∧
        target.required = true) ∧
      shortAliases command.flags = ['p'] ∧ (shortAliases command.flags).Nodup := by
  have hset : (compile document "http://h" environment).run.value = .ok commands := by rfl
  obtain ⟨hflags, hnodup, -⟩ := flags_consistent_of_compile hset List.mem_cons_self
  obtain ⟨-, -, hconsistent, p, hp, target, htarget, hcompiled, -⟩ :=
    hflags "api-key" (keyFlag none) (by rfl)
  obtain ⟨-, -, -, q, hq, target', htarget', -, hrequired⟩ :=
    hflags "page-size" (flag "page-size" "pageSize" (some 'p') true) (by rfl)
  exact ⟨hset, hconsistent, ⟨p, hp, target, htarget, hcompiled⟩,
    ⟨q, hq, target', htarget', (hrequired rfl).symm⟩, by rfl, hnodup⟩

end ApiCli

import ApiCli.Proofs.Command.Registry
import Mathlib.Data.List.Induction

/-!
# Parameters of the same name

Which of a command's parameters its flags come from. The parameters of the path come before those of
the operation, so the latter prevail.

* `Parameter.CompilesTo` is what one parameter comes to, and `LastFlag` the flag of the last
  parameter of a name. `get?_foldl_insertFlag` finds it in the flags that are put in one after the
  other.
* `exists_seen_dedupeShorts` is about the pass over these flags: before a flag is looked at, the
  aliases of all flags of smaller names have been seen, whether they were kept or not.

**Parameters of the same name** (`last_parameter_prevails`): a command has the flags of the last
parameters of all names but the reserved ones, with the aliases that no flag of a smaller name has.
-/

namespace ApiCli

variable {env : Environment} {registry : Registry} {p : Parameter} {ps : List Parameter}
  {f : Flag} {flags : Dict Flag} {name : String} {c : Char}

/-- A parameter compiles to a flag. -/
def Parameter.CompilesTo (env : Environment) (registry : Registry) (p : Parameter) (f : Flag) :
    Prop :=
  (Flag.ofParameter env registry p).run.value = .ok (some f)

/-- The flag of a name that the last of the parameters compiles to that have one of the name. -/
def LastFlag (env : Environment) (registry : Registry) (ps : List Parameter) (name : String)
    (f : Flag) : Prop :=
  f.name = name ∧ ∃ before p after, ps = before ++ p :: after ∧ p.CompilesTo env registry f ∧
    ∀ q ∈ after, ∀ g, q.CompilesTo env registry g → g.name ≠ name

/-! ## The last parameter of a name -/

theorem Parameter.compilesTo_iff :
    p.CompilesTo env registry f ↔ Flag.ofNode? env registry p = some f := by
  rw [CompilesTo, Flag.ofParameter_value]
  cases hmissing : registry.missing? p with
  | none => simp
  | some r =>
    obtain ⟨hreference, hnone⟩ := Option.filter_eq_some_iff.1 hmissing
    simp [Flag.ofNode?, hreference, Option.isNone_iff_eq_none.1 hnone]

/-- A parameter of the name among the later ones prevails. -/
theorem lastFlag_append {qs : List Parameter} :
    LastFlag env registry (ps ++ qs) name f ↔
      LastFlag env registry qs name f ∨
        (∀ q ∈ qs, ∀ g, q.CompilesTo env registry g → g.name ≠ name) ∧
          LastFlag env registry ps name f := by
  constructor
  · rintro ⟨hname, before, p, after, hsplit, hp, hlast⟩
    rcases List.append_eq_append_iff.1 hsplit with ⟨middle, rfl, rfl⟩ | ⟨middle, rfl, hrest⟩
    · exact .inl ⟨hname, middle, p, after, rfl, hp, hlast⟩
    · cases middle with
      | nil => exact .inl ⟨hname, [], p, after, hrest.symm, hp, hlast⟩
      | cons q middle =>
        obtain ⟨rfl, rfl⟩ := List.cons.inj hrest
        refine .inr ⟨fun q hq => hlast q (List.mem_append_right _ hq), hname, before, p, middle,
          rfl, hp, fun q hq => hlast q (List.mem_append_left _ hq)⟩
  · rintro (⟨hname, before, p, after, rfl, hp, hlast⟩ |
      ⟨hqs, hname, before, p, after, rfl, hp, hlast⟩)
    · exact ⟨hname, ps ++ before, p, after, (List.append_assoc _ _ _).symm, hp, hlast⟩
    · refine ⟨hname, before, p, after ++ qs, by simp, hp, fun q hq => ?_⟩
      exact (List.mem_append.1 hq).elim (hlast q) (hqs q)

theorem lastFlag_singleton :
    LastFlag env registry [p] name f ↔ p.CompilesTo env registry f ∧ f.name = name := by
  constructor
  · rintro ⟨hname, before, q, after, hsplit, hq, -⟩
    obtain ⟨-, rfl, -⟩ := List.append_eq_singleton_iff.1 hsplit.symm |>.resolve_right (by simp)
    exact ⟨hq, hname⟩
  · rintro ⟨hp, hname⟩
    exact ⟨hname, [], p, [], rfl, hp, List.forall_mem_nil _⟩

theorem not_lastFlag_nil : ¬LastFlag env registry [] name f := by
  rintro ⟨-, before, p, after, hsplit, -⟩
  simp at hsplit

/-- There is a last parameter of a name if there is any. -/
theorem exists_lastFlag_iff :
    (∃ f, LastFlag env registry ps name f) ↔
      ∃ p ∈ ps, ∃ f, p.CompilesTo env registry f ∧ f.name = name := by
  induction ps using List.reverseRecOn with
  | nil => simp [not_lastFlag_nil]
  | append_singleton ps p ih =>
    simp only [lastFlag_append, lastFlag_singleton, List.mem_append, List.mem_singleton, forall_eq]
    constructor
    · rintro ⟨f, ⟨hp, hname⟩ | ⟨-, hlast⟩⟩
      · exact ⟨p, .inr rfl, f, hp, hname⟩
      · obtain ⟨q, hq, hcompiles⟩ := ih.1 ⟨f, hlast⟩
        exact ⟨q, .inl hq, hcompiles⟩
    · rintro ⟨q, hq, f, hcompiles, hname⟩
      by_cases hp : ∃ g, p.CompilesTo env registry g ∧ g.name = name
      · obtain ⟨g, hg⟩ := hp
        exact ⟨g, .inl hg⟩
      · have hother : ∀ g, p.CompilesTo env registry g → g.name ≠ name :=
          fun g hg heq => hp ⟨g, hg, heq⟩
        rcases hq with hq | rfl
        · obtain ⟨g, hg⟩ := ih.2 ⟨q, hq, f, hcompiles, hname⟩
          exact ⟨g, .inr ⟨hother, hg⟩⟩
        · exact absurd hname (hother f hcompiles)

theorem get?_insertFlag_of_reserved (hname : name ∈ reservedFlags) :
    (insertFlag env registry flags p).get? name = flags.get? name := by
  unfold insertFlag
  cases Flag.ofNode? env registry p with
  | none => rfl
  | some g =>
    dsimp only
    split
    · rfl
    · next hfree =>
      rw [Dict.get?_insert, if_neg]
      exact fun heq => hfree (List.contains_iff_mem.2 (heq ▸ hname))

theorem get?_insertFlag (hname : name ∉ reservedFlags) :
    (insertFlag env registry flags p).get? name = some f ↔
      (p.CompilesTo env registry f ∧ f.name = name) ∨
        (∀ g, p.CompilesTo env registry g → g.name ≠ name) ∧ flags.get? name = some f := by
  simp only [Parameter.compilesTo_iff]
  unfold insertFlag
  cases Flag.ofNode? env registry p with
  | none => simp
  | some g =>
    dsimp only
    by_cases heq : g.name = name
    · subst heq
      rw [if_neg (by simpa using hname), Dict.get?_insert_self]
      simp only [Option.some.injEq, forall_eq', ne_eq, not_true_eq_false, false_and, or_false]
      exact ⟨fun h => ⟨h, h ▸ rfl⟩, And.left⟩
    · have hother : (if reservedFlags.contains g.name then flags
          else flags.insert g.name g).get? name = flags.get? name := by
        split
        · rfl
        · rw [Dict.get?_insert, if_neg heq]
      rw [hother]
      simp only [Option.some.injEq, forall_eq', ne_eq, heq, not_false_eq_true, true_and]
      refine ⟨.inr, fun h => h.resolve_left ?_⟩
      rintro ⟨rfl, hf⟩
      exact heq hf

/-- The flags that are put in one after the other are those of the last parameters. -/
theorem get?_foldl_insertFlag :
    (ps.foldl (insertFlag env registry) Dict.empty).get? name = some f ↔
      name ∉ reservedFlags ∧ LastFlag env registry ps name f := by
  -- Parameters are taken off the end, where the one stands that prevails.
  induction ps using List.reverseRecOn with
  | nil => simp [not_lastFlag_nil]
  | append_singleton ps p ih =>
    rw [List.foldl_append, List.foldl_cons, List.foldl_nil]
    by_cases hname : name ∈ reservedFlags
    · rw [get?_insertFlag_of_reserved hname, ih]
      simp [hname]
    · rw [get?_insertFlag hname, lastFlag_append, lastFlag_singleton, List.forall_mem_singleton, ih]
      simp [hname]

/-! ## Short aliases -/

theorem mem_keepShort {seen : List Char} :
    c ∈ (keepShort seen f).1 ↔ c ∈ seen ∨ f.short = some c := by
  unfold keepShort
  cases hshort : f.short with
  | none => simp
  | some d =>
    dsimp only
    split
    · next hseen =>
      have hseen : d ∈ seen := List.contains_iff_mem.1 hseen
      refine ⟨.inl, fun h => h.elim id fun heq => ?_⟩
      exact Option.some.inj heq ▸ hseen
    · simp [or_comm, eq_comm]

/-- After some flags all their aliases have been seen. -/
theorem mem_foldl_keepShort {seen : List Char} {entries : List (String × Flag)} :
    c ∈ entries.foldl (fun seen e => (keepShort seen e.2).1) seen ↔
      c ∈ seen ∨ ∃ e ∈ entries, e.2.short = some c := by
  induction entries generalizing seen with
  | nil => simp
  | cons e entries ih =>
    rw [List.foldl_cons, ih, mem_keepShort, List.exists_mem_cons_iff, or_assoc]

theorem keepShort_short {seen : List Char} :
    (keepShort seen f).2.1.short = some c ↔ f.short = some c ∧ c ∉ seen := by
  unfold keepShort
  cases hshort : f.short with
  | none => simp [hshort]
  | some d =>
    dsimp only
    split
    · next hseen =>
      have hseen : d ∈ seen := List.contains_iff_mem.1 hseen
      simp only [reduceCtorEq, Option.some.injEq, false_iff, not_and, not_not]
      rintro rfl
      exact hseen
    · next hseen =>
      have hseen : d ∉ seen := fun h => hseen (List.contains_iff_mem.2 h)
      simp only [hshort, Option.some.injEq]
      exact ⟨fun heq => ⟨heq, heq ▸ hseen⟩, And.left⟩

/-- When a flag is looked at, the aliases that have been seen are that of help and those of the
flags of smaller names. -/
theorem exists_seen_dedupeShorts (h : flags.get? name = some f) :
    ∃ seen, (dedupeShorts flags).value.get? name = some (keepShort seen f).2.1 ∧
      ∀ c, c ∈ seen ↔ c = 'h' ∨
        ∃ other g, other < name ∧ flags.get? other = some g ∧ g.short = some c := by
  obtain ⟨before, after, hsplit⟩ := List.append_of_mem (Dict.get?_eq_some_iff.1 h)
  refine ⟨before.foldl (fun seen e => (keepShort seen e.2).1) ['h'], ?_, fun c => ?_⟩
  · rw [dedupeShorts, Dict.get?_map, Dict.get?_scan_of_split hsplit]
    rfl
  · rw [mem_foldl_keepShort, List.mem_singleton]
    simp only [Prod.exists, Dict.mem_before_iff hsplit, and_assoc]

/-! ## The flags of a command -/

theorem compileFlags_of_missing {reference : String} {before after : List Parameter}
    (hsplit : ps = before ++ p :: after) (hbefore : ∀ q ∈ before, registry.missing? q = none)
    (hp : registry.missing? p = some reference) :
    (compileFlags env registry ps).run.value = .error (.missingReference reference) := by
  have hfirst : ps.findSome? registry.missing? = some reference := by
    rw [hsplit, List.findSome?_append, List.findSome?_eq_none_iff.2 hbefore, Option.none_or,
      List.findSome?_cons, hp]
  rw [compileFlags_value, hfirst]

/-- A flag that is kept, apart from its short alias, and when it has that. -/
theorem get?_dedupeShorts_lastFlag
    (h : (dedupeShorts (ps.foldl (insertFlag env registry) Dict.empty)).value.get? name = some f) :
    ∃ last, LastFlag env registry ps name last ∧ f = { last with short := f.short } ∧
      ∀ c, f.short = some c ↔ last.short = some c ∧ c ≠ 'h' ∧ ∀ other < name,
        other ∉ reservedFlags → ∀ g, LastFlag env registry ps other g → g.short ≠ some c := by
  obtain ⟨last, _, hlast, -⟩ := get?_dedupeShorts h
  obtain ⟨seen, hkept, hseen⟩ := exists_seen_dedupeShorts hlast
  obtain ⟨-, hlast⟩ := get?_foldl_insertFlag.1 hlast
  obtain rfl := Option.some.inj (h.symm.trans hkept)
  refine ⟨last, hlast, ?_, fun c => ?_⟩
  · obtain ⟨short, hshort⟩ := keepShort_flag seen last
    rw [hshort]
  · simp only [get?_foldl_insertFlag] at hseen
    rw [keepShort_short, hseen, not_or]
    refine and_congr_right fun _ => and_congr_right fun _ => ?_
    constructor
    · intro hnone other hlt hfree g hg hshort
      exact hnone ⟨other, g, hlt, ⟨hfree, hg⟩, hshort⟩
    · rintro hnone ⟨other, g, hlt, ⟨hfree, hg⟩, hshort⟩
      exact hnone other hlt hfree g hg hshort

theorem compileFlags_of_skipped {before after : List Parameter}
    (hp : (Flag.ofParameter env registry p).run.value = .ok none) :
    (compileFlags env registry (before ++ after)).run.value =
      (compileFlags env registry (before ++ p :: after)).run.value := by
  rw [Flag.ofParameter_value] at hp
  cases hmissing : registry.missing? p with
  | some r =>
    rw [hmissing] at hp
    cases hp
  | none =>
    rw [hmissing] at hp
    have hskip (flags : Dict Flag) : insertFlag env registry flags p = flags := by
      rw [insertFlag, Except.ok.inj hp]
    rw [compileFlags_value, compileFlags_value, List.findSome?_append, List.findSome?_append,
      List.findSome?_cons, hmissing, List.foldl_append, List.foldl_append, List.foldl_cons, hskip]

/-- **Parameters of the same name.** Flags fail with the first reference that the registry does not
hold. Otherwise there is a flag for every name that is not reserved and that a parameter compiles
to, and it is that of the last such parameter, one of the operation before one of the path. It keeps
its short alias unless that is the one of help, or the last parameter of a smaller name has it. A
parameter that is no flag changes nothing. -/
theorem last_parameter_prevails (env : Environment) (registry : Registry)
    (pathLevel operationLevel : List Parameter) :
    let parameters := pathLevel ++ operationLevel
    (∀ before p after reference, parameters = before ++ p :: after →
        (∀ q ∈ before, registry.missing? q = none) → registry.missing? p = some reference →
        (compileFlags env registry parameters).run.value = .error (.missingReference reference)) ∧
      ((∀ p ∈ parameters, registry.missing? p = none) →
        ∃ flags, (compileFlags env registry parameters).run.value = .ok flags ∧
          (∀ name, (∃ f, flags.get? name = some f) ↔ name ∉ reservedFlags ∧
            ∃ p ∈ parameters, ∃ f, p.CompilesTo env registry f ∧ f.name = name) ∧
          ∀ name f, flags.get? name = some f →
            ∃ last, LastFlag env registry parameters name last ∧
              ((∃ p ∈ operationLevel, ∃ g, p.CompilesTo env registry g ∧ g.name = name) →
                LastFlag env registry operationLevel name last) ∧
              f = { last with short := f.short } ∧
              ∀ c, f.short = some c ↔ last.short = some c ∧ c ≠ 'h' ∧ ∀ other < name,
                other ∉ reservedFlags → ∀ g, LastFlag env registry parameters other g →
                  g.short ≠ some c) ∧
      ∀ before p after, parameters = before ++ p :: after →
        (Flag.ofParameter env registry p).run.value = .ok none →
        (compileFlags env registry (before ++ after)).run.value =
          (compileFlags env registry parameters).run.value := by
  intro parameters
  refine ⟨fun before p after reference => compileFlags_of_missing, fun hheld => ?_,
    fun before p after hsplit hp => hsplit ▸ compileFlags_of_skipped hp⟩
  refine ⟨(dedupeShorts (parameters.foldl (insertFlag env registry) Dict.empty)).value, ?_,
    fun name => ?_, fun name f hf => ?_⟩
  · rw [compileFlags_value, List.findSome?_eq_none_iff.2 hheld]
  · rw [← exists_lastFlag_iff]
    constructor
    · rintro ⟨f, hf⟩
      obtain ⟨before, _, hbefore, -⟩ := get?_dedupeShorts hf
      obtain ⟨hfree, hlast⟩ := get?_foldl_insertFlag.1 hbefore
      exact ⟨hfree, before, hlast⟩
    · rintro ⟨hfree, last, hlast⟩
      obtain ⟨seen, hkept, -⟩ :=
        exists_seen_dedupeShorts (get?_foldl_insertFlag.2 ⟨hfree, hlast⟩)
      exact ⟨_, hkept⟩
  · obtain ⟨last, hlast, hshort⟩ := get?_dedupeShorts_lastFlag hf
    refine ⟨last, hlast, ?_, hshort⟩
    rintro ⟨p, hp, g, hg, hname⟩
    exact (lastFlag_append.1 hlast).resolve_right fun h => h.1 p hp g hg hname

/-! ## A sample

The operation declares the parameter `Page` over the one of the path, with an alias that `zone`
wants as well. The shared parameter `limit` has the alias of the parameter that is declared over. -/

namespace Overriding

def parameter (name type : String) (location : Location) (short : String) : Parameter :=
  { Parameter.empty with name, location, type := some type, short := some short }

def pathLevel : List Parameter :=
  [parameter "page" "string" .query "p", parameter "help" "string" .query "x"]

def operationLevel : List Parameter :=
  [parameter "Page" "integer" .header "q",
    { Parameter.empty with reference := some "#/parameters/limit" },
    parameter "zone" "string" .query "q", parameter "all" "object" .body "a"]

def document : Document :=
  let list : Operation := { Operation.empty with
    command := some "list"
    parameters := operationLevel }
  { Document.empty with
    parameters := Dict.empty.insert "limit" (parameter "limit" "integer" .query "p")
    paths := Dict.empty.insert "/items"
      { PathItem.empty.setOperation .get (some list) with parameters := pathLevel } }

def flag (name paramName : String) (type : Scalar) (location : Location) (short : Option Char) :
    Flag :=
  { name, paramName, location, short
    description := ""
    type := .single type
    required := false
    default := none
    fromEnv := false
    envSupplied := false }

def sharedRegistry : Registry :=
  Registry.empty.add "limit" (some (flag "limit" "limit" .integer .query (some 'p')))

def command : Command :=
  { name := "list"
    aliases := []
    method := .get
    path := "/items"
    summary := ""
    description := ""
    flags := Dict.ofList [("limit", flag "limit" "limit" .integer .query (some 'p')),
      ("page", flag "page" "Page" .integer .header (some 'q')),
      ("zone", flag "zone" "zone" .string .query none)]
    isDefault := false }

end Overriding

open Overriding in
/-- The flag `page` is that of the operation's parameter, with its alias, which `zone` loses.
Without the shared parameter the reference to it is reported. -/
theorem last_parameter_prevails_page :
    (compile document "http://h" fun _ => none).run.value =
        .ok ⟨[command], sharedRegistry, "http://h"⟩ ∧
      (∀ p ∈ pathLevel ++ operationLevel, sharedRegistry.missing? p = none) ∧
      (∃ flags,
        (compileFlags (fun _ => none) sharedRegistry (pathLevel ++ operationLevel)).run.value =
          .ok flags ∧ flags = command.flags ∧
        ∃ last, LastFlag (fun _ => none) sharedRegistry operationLevel "page" last ∧
          flag "page" "Page" .integer .header (some 'q') = { last with short := some 'q' } ∧
          last.short = some 'q') ∧
      (compileFlags (fun _ => none) Registry.empty (pathLevel ++ operationLevel)).run.value =
        .error (.missingReference "#/parameters/limit") := by
  have hheld : ∀ p ∈ pathLevel ++ operationLevel, sharedRegistry.missing? p = none := by
    decide +kernel
  obtain ⟨-, hflags, -⟩ :=
    last_parameter_prevails (fun _ => none) sharedRegistry pathLevel operationLevel
  obtain ⟨hmissing, -, -⟩ :=
    last_parameter_prevails (fun _ => none) Registry.empty pathLevel operationLevel
  obtain ⟨flags, hvalue, -, hlast⟩ := hflags hheld
  have hcommand :
      (compileFlags (fun _ => none) sharedRegistry (pathLevel ++ operationLevel)).run.value =
        .ok command.flags := by rfl
  obtain rfl := Except.ok.inj (hvalue.symm.trans hcommand)
  have hpage : (parameter "Page" "integer" .header "q").CompilesTo (fun _ => none) sharedRegistry
      (flag "page" "Page" .integer .header (some 'q')) := by rfl
  obtain ⟨last, -, hown, hsame, hshort⟩ :=
    hlast "page" (flag "page" "Page" .integer .header (some 'q')) (by rfl)
  refine ⟨by rfl, hheld, ⟨_, hvalue, rfl, last, hown ⟨_, List.mem_cons_self, _, hpage, rfl⟩, hsame,
    ((hshort 'q').1 rfl).1⟩, ?_⟩
  exact hmissing _ _ _ "#/parameters/limit" (List.append_assoc pathLevel
    [parameter "Page" "integer" .header "q"] _).symm (by decide +kernel) (by rfl)

end ApiCli

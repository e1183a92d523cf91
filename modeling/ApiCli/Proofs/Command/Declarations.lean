import Mathlib.Data.List.Perm.Basic
import ApiCli.Proofs.Command.Compilation

/-!
# Two ways of declaring a command

A command is declared by the marks of an operation or by an entry of the command map.

* `compile_eq_ok_iff`: a document compiles exactly if its shared parameters do, every source has a
  command and no two commands have a name in common. The order of the sources does not matter for
  that.
* `Document.asEntry` moves the marks of an operation to an entry. `Origin.perm_all_asEntry` is about
  the places of the two documents, `Source.compile_asEntry` about what a source comes to in them.

**Marks and entries** (`compile_asEntry`): the document with the entry compiles too, and to the same
commands in another order.
-/

namespace ApiCli

variable {doc : Document} {env : Environment} {registry : Registry} {sources rest : List Source}
  {s : Source} {c : Command} {commands : List Command} {set : CommandSet} {path : String}
  {method : Method} {item : PathItem} {op : Operation} {name spelled : String}

/-! ## Documents that compile -/

/-- The order of commands does not matter for their names. -/
theorem NamesDisjoint.perm {commands' : List Command} (h : NamesDisjoint commands)
    (hperm : commands.Perm commands') : NamesDisjoint commands' :=
  hperm.pairwise h fun hcd name hd hc => hcd name hc hd

/-- A source comes to a command, if its names are free. -/
def Source.Gives (doc : Document) (env : Environment) (registry : Registry) (s : Source)
    (c : Command) : Prop :=
  (s.compile doc env registry).run.value = .ok c

namespace Progress

variable {p : Progress}

theorem isTaken_iff : p.isTaken c = true ↔ ∃ d ∈ p.commands, ∃ name ∈ d.names, name ∈ c.names := by
  simp only [isTaken, Command.isNamed, List.any_eq_true, List.contains_iff_mem]
  grind

theorem namesDisjoint_append (h : NamesDisjoint p.commands) :
    NamesDisjoint (p.commands ++ [c]) ↔ p.isTaken c ≠ true := by
  rw [NamesDisjoint, List.pairwise_append, Ne, isTaken_iff]
  constructor
  · rintro ⟨-, -, hfresh⟩ ⟨d, hd, name, hname, hname'⟩
    exact hfresh d hd c List.mem_cons_self name hname hname'
  · refine fun hfree => ⟨h, List.pairwise_singleton _ _, fun d hd e he name hname hname' => ?_⟩
    obtain rfl := List.mem_singleton.1 he
    exact hfree ⟨d, hd, name, hname, hname'⟩

/-- A source adds its command if it gives one whose names are free, and else a failure. -/
theorem add_cases (doc : Document) (env : Environment) (registry : Registry) (p : Progress)
    (s : Source) :
    (∃ c, s.Gives doc env registry c ∧ p.isTaken c ≠ true ∧
      (p.add doc env registry s).value = { p with commands := p.commands ++ [c] }) ∨
    (∀ c, s.Gives doc env registry c → p.isTaken c = true) ∧
      ∃ f, (p.add doc env registry s).value = { p with failures := p.failures ++ [f] } := by
  rw [add_value]
  unfold Source.Gives
  cases (s.compile doc env registry).run.value with
  | error reason => exact .inr ⟨fun c hc => (nomatch hc), _, rfl⟩
  | ok c =>
    dsimp only
    split
    · next htaken => exact .inr ⟨fun d hd => Except.ok.inj hd ▸ htaken, _, rfl⟩
    · next hfree => exact .inl ⟨c, rfl, hfree, rfl⟩

/-- No failure is taken back. -/
theorem failures_of_foldl_add (h : (sources.foldl
    (fun p s => (Progress.add doc env registry p s).value) p).failures = []) : p.failures = [] := by
  induction sources generalizing p with
  | nil => exact h
  | cons s rest ih =>
    have hstep : (p.add doc env registry s).value.failures = [] := ih h
    rcases add_cases doc env registry p s with ⟨c, -, -, hadd⟩ | ⟨-, f, hadd⟩
    · rwa [hadd] at hstep
    · rw [hadd] at hstep
      exact (List.append_eq_nil_iff.1 hstep).1

/-- There are no failures exactly if every source has given its command and the names of all
commands are distinct. -/
theorem foldl_add_eq_iff (hfailures : p.failures = []) (hdisjoint : NamesDisjoint p.commands) :
    sources.foldl (fun p s => (Progress.add doc env registry p s).value) p = ⟨commands, []⟩ ↔
      ∃ given, commands = p.commands ++ given ∧
        List.Forall₂ (Source.Gives doc env registry) sources given ∧ NamesDisjoint commands := by
  induction sources generalizing p with
  | nil =>
    constructor
    · rintro rfl
      exact ⟨[], (List.append_nil _).symm, .nil, hdisjoint⟩
    · rintro ⟨given, rfl, hgiven, -⟩
      cases hgiven
      rw [List.append_nil, ← hfailures]
      rfl
  | cons s rest ih =>
    rw [List.foldl_cons]
    rcases add_cases doc env registry p s with ⟨c, hc, hfree, hadd⟩ | ⟨hnone, f, hadd⟩
    · have hrest := ih (p := { p with commands := p.commands ++ [c] }) hfailures
        ((namesDisjoint_append hdisjoint).2 hfree)
      rw [hadd, hrest]
      constructor
      · rintro ⟨given, rfl, hgiven, hall⟩
        exact ⟨c :: given, by simp, .cons hc hgiven, hall⟩
      · rintro ⟨_, rfl, hgiven, hall⟩
        cases hgiven with
        | @cons _ d _ given hd hgiven =>
          obtain rfl : c = d := Except.ok.inj (hc.symm.trans hd)
          exact ⟨given, by simp, hgiven, hall⟩
    · constructor
      · intro h
        have hnil := failures_of_foldl_add (congrArg failures h)
        rw [hadd] at hnil
        exact absurd hnil (List.append_ne_nil_of_right_ne_nil _ (List.cons_ne_nil _ _))
      · rintro ⟨_, rfl, hgiven, hall⟩
        cases hgiven with
        | @cons _ d _ given hd _ =>
          have hfree : NamesDisjoint (p.commands ++ [d]) :=
            hall.sublist ((List.append_sublist_append_left _).2 (by simp))
          exact absurd (hnone d hd) ((namesDisjoint_append hdisjoint).1 hfree)

end Progress

/-- A document compiles exactly if its shared parameters do, every source gives a command and no
two commands have a name in common. -/
theorem compile_eq_ok_iff {baseUrl : String} :
    (compile doc baseUrl env).run.value = .ok set ↔
      (sharedParameters env doc.parameters).value.failures = [] ∧
      List.Forall₂ (Source.Gives doc env (sharedParameters env doc.parameters).value.registry)
        (Source.all doc) set.commands ∧
      NamesDisjoint set.commands ∧
      set.parameters = (sharedParameters env doc.parameters).value.registry ∧
      set.baseUrl = baseUrl := by
  rw [compile_eq doc baseUrl env rfl rfl]
  generalize (sharedParameters env doc.parameters).value = shared
  have hdisjoint : NamesDisjoint (Progress.mk [] shared.failures).commands := .nil
  constructor
  · intro h
    split at h
    · next hnone =>
      obtain rfl := Except.ok.inj h
      have hshared : shared.failures = [] :=
        Progress.failures_of_foldl_add (p := ⟨[], shared.failures⟩) hnone
      obtain ⟨given, heq, hgiven, hall⟩ := (Progress.foldl_add_eq_iff hshared hdisjoint).1
        (congrArg (Progress.mk _) hnone)
      exact ⟨hshared, heq ▸ hgiven, hall, rfl, rfl⟩
    · cases h
  · intro ⟨hshared, hgiven, hall, hparameters, hbaseUrl⟩
    rw [(Progress.foldl_add_eq_iff hshared hdisjoint).2 ⟨set.commands, rfl, hgiven, hall⟩,
      if_pos rfl, ← hparameters, ← hbaseUrl]
    rfl

/-! ## Moving marks to the command map -/

/-- An operation that is no command by itself. -/
def Operation.unmarked (op : Operation) : Operation :=
  { op with command := none, aliases := [], isDefault := false }

namespace Document

/-- The operation of a document with a marker that names its command. -/
structure Marks (doc : Document) (path : String) (method : Method) (name : String)
    (item : PathItem) (op : Operation) : Prop where
  atPath : doc.paths.get? path = some item
  atMethod : item.operation? method = some op
  marker : op.command = some name
  named : name ≠ ""

/-- The document with the marks of an operation moved to an entry, which spells the method in a way
of its own. -/
def asEntry (doc : Document) (path : String) (method : Method) (name : String) (item : PathItem)
    (op : Operation) (spelled : String) : Document :=
  { doc with
    paths := doc.paths.insert path (item.setOperation method (some op.unmarked))
    commands := doc.commands.insert name ⟨some spelled, some path, op.aliases, op.isDefault⟩ }

namespace Marks

/-- Only the marks of the operation change. -/
theorem operation?_asEntry (h : doc.Marks path method name item op) (spelled p : String)
    (m : Method) :
    ((doc.asEntry path method name item op spelled).paths.get? p).bind (·.operation? m) =
      ((doc.paths.get? p).bind (·.operation? m)).map fun o =>
        if p = path ∧ m = method then o.unmarked else o := by
  rw [asEntry, Dict.get?_insert]
  by_cases hp : path = p
  · subst hp
    by_cases hm : m = method
    · simp [hm, h.atPath, h.atMethod, PathItem.setOperation]
    · simp [hm, h.atPath, PathItem.setOperation]
  · simp [hp, Ne.symm hp]

theorem parameters_asEntry (h : doc.Marks path method name item op) (spelled p : String)
    (m : Method) : Source.parameters (doc.asEntry path method name item op spelled) m p =
      Source.parameters doc m p := by
  unfold Source.parameters
  rw [asEntry, Dict.get?_insert]
  by_cases hp : path = p
  · subst hp
    by_cases hm : m = method
    · simp [hm, h.atPath, h.atMethod, PathItem.setOperation, Operation.unmarked]
    · simp [hm, h.atPath, PathItem.setOperation]
  · simp [hp]

theorem command_asEntry (h : doc.Marks path method name item op) (spelled : String) (s : Source) :
    s.command (doc.asEntry path method name item op spelled) = s.command doc := by
  funext name' m p flags
  unfold Source.command
  rw [h.operation?_asEntry]
  cases (doc.paths.get? p).bind (·.operation? m) with
  | none => rfl
  | some o =>
    dsimp only [Option.map_some]
    split <;> rfl

/-- A source comes to the same in both documents. -/
theorem gives_asEntry (h : doc.Marks path method name item op) (spelled : String)
    (env : Environment) (registry : Registry) :
    Source.Gives (doc.asEntry path method name item op spelled) env registry =
      Source.Gives doc env registry := by
  funext s c
  unfold Source.Gives
  simp only [Source.compile_eq_heading, h.command_asEntry, h.parameters_asEntry]

end Marks
end Document

/-! ## The places of both documents -/

namespace Origin

theorem nodup_all (doc : Document) : (all doc).Nodup := by
  refine (pairwise_all doc).imp fun {o o'} hbefore heq => ?_
  subst heq
  cases o with
  | operation path method =>
    rcases hbefore with hlt | ⟨-, hlt⟩
    · exact String.lt_irrefl _ hlt
    · exact Nat.lt_irrefl _ hlt
  | entry name => exact String.lt_irrefl _ hbefore

theorem operation_mem_all : operation path method ∈ all doc ↔ path ∈ doc.paths.keys := by
  have hmethod : method ∈ Method.all := by cases method <;> decide
  simp [all, hmethod]

theorem entry_mem_all : entry name ∈ all doc ↔ name ∈ doc.commands.keys := by
  simp [all]

/-- The places of the document with the entry are those of the document and the entry. -/
theorem perm_all_asEntry (h : doc.Marks path method name item op)
    (hname : name ∉ doc.commands.keys) (spelled : String) :
    (all (doc.asEntry path method name item op spelled)).Perm (entry name :: all doc) := by
  have hnodup : (entry name :: all doc).Nodup :=
    List.nodup_cons.2 ⟨fun hmem => hname (entry_mem_all.1 hmem), nodup_all doc⟩
  have hpath : path ∈ doc.paths.keys := Dict.mem_keys_iff.2 ⟨item, h.atPath⟩
  refine (List.perm_ext_iff_of_nodup (nodup_all _) hnodup).2 fun o => ?_
  cases o with
  | operation p m =>
    rw [List.mem_cons, operation_mem_all, operation_mem_all, Document.asEntry, Dict.mem_keys_insert]
    constructor
    · rintro (rfl | hp)
      · exact .inr hpath
      · exact .inr hp
    · rintro (hp | hp)
      · cases hp
      · exact .inr hp
  | entry n =>
    rw [List.mem_cons, entry_mem_all, entry_mem_all, Document.asEntry, Dict.mem_keys_insert]
    simp

end Origin

/-! ## The sources of both documents -/

/-- What the marks of an operation say, as a source. -/
def Operation.marked (op : Operation) (name method path : String) : Source :=
  ⟨some name, some method, some path, op.aliases, op.isDefault⟩

theorem Method.ofName?_of_asciiLower (h : Method.asciiLower spelled = method.lowerName) :
    Method.ofName? spelled = some method := by
  have hlower : Method.asciiLower method.lowerName = method.lowerName := by
    cases method <;> decide
  rw [← Method.ofName?_lowerName method, Method.ofName?, Method.ofName?, h, hlower]

theorem Source.Gives.realises (h : s.Gives doc env registry c) : s.Realises doc env registry c := by
  rcases s.compile_value doc env registry with ⟨reason, -, hreason⟩ | ⟨-, d, hd, hreal⟩
  · cases hreason.symm.trans h
  · obtain rfl := Except.ok.inj (hd.symm.trans h)
    exact hreal

/-- Every source has its command among those that are given. -/
theorem exists_gives (h : List.Forall₂ (Source.Gives doc env registry) sources commands)
    (hs : s ∈ sources) : ∃ c ∈ commands, s.Gives doc env registry c := by
  induction h with
  | nil => cases hs
  | cons hgives _ ih =>
    rcases List.mem_cons.1 hs with rfl | hs
    · exact ⟨_, List.mem_cons_self, hgives⟩
    · obtain ⟨c, hc, hgives⟩ := ih hs
      exact ⟨c, List.mem_cons_of_mem _ hc, hgives⟩

/-- However the method is spelled, the same command is given. -/
theorem Operation.gives_marked_iff (op : Operation)
    (h : Method.asciiLower spelled = method.lowerName) :
    (op.marked name spelled path).Gives doc env registry c ↔
      (op.marked name method.lowerName path).Gives doc env registry c := by
  have hheading : (op.marked name spelled path).heading =
      (op.marked name method.lowerName path).heading := by
    simp [Source.heading, marked, Method.ofName?_of_asciiLower h]
  unfold Source.Gives
  rw [Source.compile_eq_heading, Source.compile_eq_heading, hheading]
  rfl

namespace Document.Marks

theorem source?_eq (h : doc.Marks path method name item op) :
    (Origin.operation path method).source? doc =
      some (op.marked name method.lowerName path) := by
  simp [Origin.source?, h.atPath, h.atMethod, Source.ofOperation?, h.marker, h.named,
    Operation.marked]

theorem source?_entry_asEntry (doc : Document) (path : String) (method : Method) (name : String)
    (item : PathItem) (op : Operation) (spelled : String) :
    (Origin.entry name).source? (doc.asEntry path method name item op spelled) =
      some (op.marked name spelled path) := by
  simp [Origin.source?, asEntry, Source.ofEntry, Operation.marked]

/-- The operation is no source any more. -/
theorem source?_operation_asEntry (h : doc.Marks path method name item op) (spelled : String) :
    (Origin.operation path method).source? (doc.asEntry path method name item op spelled) =
      none := by
  rw [Origin.source?, h.operation?_asEntry]
  simp [h.atPath, h.atMethod, Source.ofOperation?, Operation.unmarked]

/-- Nothing changes at other places. -/
theorem source?_asEntry (h : doc.Marks path method name item op) (spelled : String) {o : Origin}
    (hoperation : o ≠ .operation path method) (hentry : o ≠ .entry name) :
    o.source? (doc.asEntry path method name item op spelled) = o.source? doc := by
  cases o with
  | operation p m =>
    have hplace : ¬(p = path ∧ m = method) := fun ⟨hp, hm⟩ => hoperation (hp ▸ hm ▸ rfl)
    rw [Origin.source?, Origin.source?, h.operation?_asEntry]
    simp [hplace]
  | entry n =>
    have hn : name ≠ n := fun heq => hentry (heq ▸ rfl)
    simp [Origin.source?, asEntry, Dict.get?_insert, hn]

/-- The other places of the document. -/
theorem exists_others (h : doc.Marks path method name item op) : ∃ others,
    (Origin.all doc).Perm (.operation path method :: others) ∧
      .operation path method ∉ others := by
  have hmem : .operation path method ∈ Origin.all doc :=
    Origin.operation_mem_all.2 (Dict.mem_keys_iff.2 ⟨item, h.atPath⟩)
  obtain ⟨before, after, heq⟩ := List.append_of_mem hmem
  have hperm : (Origin.all doc).Perm (.operation path method :: (before ++ after)) :=
    heq ▸ List.perm_middle
  exact ⟨before ++ after, hperm, (List.nodup_cons.1 (hperm.nodup_iff.1 (Origin.nodup_all doc))).1⟩

variable {others : List Origin}

theorem perm_sources (h : doc.Marks path method name item op)
    (hothers : (Origin.all doc).Perm (.operation path method :: others)) :
    (Source.all doc).Perm (op.marked name method.lowerName path ::
      others.filterMap (Origin.source? doc)) := by
  rw [Origin.sources_eq]
  refine (hothers.filterMap _).trans ?_
  rw [List.filterMap_cons_some h.source?_eq]

theorem perm_sources_asEntry (h : doc.Marks path method name item op)
    (hothers : (Origin.all doc).Perm (.operation path method :: others))
    (hnotMem : .operation path method ∉ others) (hname : name ∉ doc.commands.keys)
    (spelled : String) :
    (Source.all (doc.asEntry path method name item op spelled)).Perm
      (op.marked name spelled path :: others.filterMap (Origin.source? doc)) := by
  have hperm := (Origin.perm_all_asEntry h hname spelled).trans (hothers.cons (.entry name))
  have hsame : others.filterMap (Origin.source? (doc.asEntry path method name item op spelled)) =
      others.filterMap (Origin.source? doc) := by
    refine List.filterMap_congr fun o ho => h.source?_asEntry spelled ?_ ?_
    · rintro rfl
      exact hnotMem ho
    · rintro rfl
      exact hname (Origin.entry_mem_all.1 (hothers.mem_iff.2 (List.mem_cons_of_mem _ ho)))
  rw [Origin.sources_eq]
  refine (hperm.filterMap _).trans ?_
  rw [List.filterMap_cons_some (source?_entry_asEntry ..),
    List.filterMap_cons_none (h.source?_operation_asEntry spelled), hsame]

/-- No entry has the command's name already, if the document compiles. -/
theorem notMem_commands (hothers : (Origin.all doc).Perm (.operation path method :: others))
    (hgiven : List.Forall₂ (Source.Gives doc env registry)
      (op.marked name method.lowerName path :: others.filterMap (Origin.source? doc)) commands)
    (hdisjoint : NamesDisjoint commands) : name ∉ doc.commands.keys := by
  intro hmem
  obtain ⟨e, he⟩ := Dict.mem_keys_iff.1 hmem
  have hentry : Origin.entry name ∈ others :=
    (List.mem_cons.1 (hothers.mem_iff.1 (Origin.entry_mem_all.2 hmem))).resolve_left nofun
  have hsource : Source.ofEntry name e ∈ others.filterMap (Origin.source? doc) :=
    List.mem_filterMap.2 ⟨_, hentry, by simp [Origin.source?, he]⟩
  cases hgiven with
  | @cons _ c _ given hc hrest =>
    obtain ⟨d, hd, hgives⟩ := exists_gives hrest hsource
    have hc : name = c.name := Option.some.inj hc.realises.name
    have hd' : name = d.name := Option.some.inj hgives.realises.name
    refine (List.pairwise_cons.1 hdisjoint).1 d hd name ?_ ?_
    · exact hc ▸ List.mem_cons_self
    · exact hd' ▸ List.mem_cons_self

end Document.Marks

/-- A command that is declared by the marks of an operation can as well be declared by an entry of
the command map, in which the method is spelled in any letter case: the document still compiles, and
to the same commands in another order. -/
theorem compile_asEntry {baseUrl : String} (hmarks : doc.Marks path method name item op)
    (hspelled : Method.asciiLower spelled = method.lowerName)
    (hcompile : (compile doc baseUrl env).run.value = .ok set) :
    ∃ set', (compile (doc.asEntry path method name item op spelled) baseUrl env).run.value =
        .ok set' ∧
      set'.commands.Perm set.commands ∧ set'.parameters = set.parameters ∧
      set'.baseUrl = set.baseUrl := by
  obtain ⟨hshared, hgiven, hdisjoint, hparameters, hbaseUrl⟩ := compile_eq_ok_iff.1 hcompile
  obtain ⟨others, hothers, hnotMem⟩ := hmarks.exists_others
  -- the sources of the document with that of the operation first, and their commands
  obtain ⟨commands, hcommands, hperm⟩ :=
    List.perm_comp_forall₂ (hmarks.perm_sources hothers).symm hgiven
  have hdisjoint' : NamesDisjoint commands := hdisjoint.perm hperm.symm
  have hname := Document.Marks.notMem_commands hothers hcommands hdisjoint'
  -- the same commands come from the sources with that of the entry first
  have hentry : List.Forall₂
      (Source.Gives doc env (sharedParameters env doc.parameters).value.registry)
      (op.marked name spelled path :: others.filterMap (Origin.source? doc)) commands := by
    cases hcommands with
    | cons hc hrest => exact .cons ((op.gives_marked_iff hspelled).2 hc) hrest
  obtain ⟨commands', hcommands', hperm'⟩ := List.perm_comp_forall₂
    (hmarks.perm_sources_asEntry hothers hnotMem hname spelled) hentry
  refine ⟨⟨commands', set.parameters, set.baseUrl⟩, compile_eq_ok_iff.2
    ⟨hshared, ?_, hdisjoint'.perm hperm'.symm, hparameters, hbaseUrl⟩, hperm'.trans hperm, rfl, rfl⟩
  rwa [hmarks.gives_asEntry]

namespace Declarations

/-- An operation that is marked as the default command, under two names. -/
def list : Operation :=
  { Operation.empty with command := some "list", aliases := ["ls"], isDefault := true }

/-- A path with the marked operation and another one. -/
def items : PathItem :=
  (PathItem.empty.setOperation .get (some list)).setOperation .post
    (some { Operation.empty with command := some "create" })

/-- A document with two marked operations and an entry. -/
def document : Document :=
  { Document.empty with
    paths := Dict.empty.insert "/items" items
    commands := Dict.empty.insert "drop" ⟨some "DELETE", some "/items", [], false⟩ }

end Declarations

open Declarations in
/-- Marked, the command comes before that of the other operation; as an entry it comes last. -/
theorem compile_asEntry_list :
    document.Marks "/items" .get "list" items list ∧
      Method.asciiLower "GeT" = Method.get.lowerName ∧
      ∃ set set', (compile document "http://h" fun _ => none).run.value = .ok set ∧
        (compile (document.asEntry "/items" .get "list" items list "GeT") "http://h"
          fun _ => none).run.value = .ok set' ∧
        set'.commands.Perm set.commands ∧
        set.commands.map (·.name) = ["list", "create", "drop"] ∧
        set'.commands.map (·.name) = ["create", "drop", "list"] := by
  have hmarks : document.Marks "/items" .get "list" items list := ⟨by rfl, rfl, rfl, by decide⟩
  have hspelled : Method.asciiLower "GeT" = Method.get.lowerName := by decide
  obtain ⟨set, hset⟩ : ∃ set, (compile document "http://h" fun _ => none).run.value = .ok set :=
    ⟨_, rfl⟩
  obtain ⟨set', hset', hperm, -⟩ := compile_asEntry hmarks hspelled hset
  refine ⟨hmarks, hspelled, set, set', hset, hset', hperm, ?_, ?_⟩
  · cases hset
    decide
  · cases hset'
    decide

end ApiCli

import Mathlib.Data.List.Pairwise
import ApiCli.Client.Tree
import ApiCli.Client.Config
import ApiCli.Proofs.Arguments.Accepted
import ApiCli.Proofs.Command.Provenance

/-!
# Calls of commands

What is found in a command line that calls a command of a document. The words after the one that
calls the command decide about its flags: each flag is settled by them and by its default.

* `CommandTree.divides_of_parse`: an accepted line falls apart into the words of the two levels, with
  the word that calls between them.
* `Config.find?_of_call?` and `Config.call?_of_find?`: the words that call are the names of commands.
* `settled_of_call`: what a call gives the flags of its command.
-/

namespace ApiCli

variable {doc : Document} {env processEnv : Environment} {config : Config} {set : CommandSet}
  {c : Command} {word : String} {given : Dict Given}

theorem Level.mem_of_call? {l : Level} (h : l.call? word = some (.subcommand s)) :
    s ∈ l.subcommands := by
  unfold call? at h
  split at h
  · next found hfound =>
    split at h
    · cases h
    · cases h
      exact List.mem_of_find?_eq_some hfound
  · split at h <;> cases h

/-- A line that calls a subcommand has words for it, and these say what it is given. The values of
the global arguments come from both levels. -/
theorem CommandTree.parse_called {t : CommandTree} {name : String}
    (h : t.parse env args = .ok ⟨globals, some (name, given)⟩) :
    ∃ reading s words root, t.rootLevel.scan Reading.start args.tail =
        .ok (reading, some (.subcommand s, words)) ∧
      s ∈ t.subcommands ∧ s.name = name ∧ t.parseSub env s words = .ok given ∧
      reading.close env t.arguments = .ok root ∧ globals = t.mergeGlobals root given := by
  unfold parse at h
  obtain ⟨⟨reading, found⟩, hscan, h⟩ := Except.bind_eq_ok.1 h
  match found with
  | none =>
    obtain ⟨closed, -, h⟩ := Except.bind_eq_ok.1 h
    obtain ⟨-, -, h⟩ := Except.bind_eq_ok.1 h
    obtain ⟨-, -, h⟩ := Except.bind_eq_ok.1 h
    cases h
  | some (.help, rest) => cases h
  | some (.subcommand s, rest) =>
    obtain ⟨sub, hsub, h⟩ := Except.bind_eq_ok.1 h
    obtain ⟨root, hclose, h⟩ := Except.bind_eq_ok.1 h
    cases h
    obtain ⟨-, word, -, -, -, hword⟩ := Level.scan_called hscan
    exact ⟨reading, s, rest, root, hscan, Level.mem_of_call? hword, rfl, hsub, hclose, rfl⟩

/-- Where a subcommand has to be called, an accepted line calls one. -/
theorem CommandTree.exists_call {t : CommandTree} (hneeds : t.needsSubcommand = true)
    (h : t.parse env args = .ok invocation) :
    ∃ name given, invocation.call = some (name, given) := by
  unfold parse at h
  obtain ⟨⟨reading, found⟩, -, h⟩ := Except.bind_eq_ok.1 h
  match found with
  | none =>
    obtain ⟨closed, -, h⟩ := Except.bind_eq_ok.1 h
    obtain ⟨_, hcalled, -⟩ := Except.bind_eq_ok.1 h
    unfold checkCalled at hcalled
    rw [hneeds] at hcalled
    cases hcalled
  | some (.help, rest) => cases h
  | some (.subcommand s, rest) =>
    obtain ⟨sub, -, h⟩ := Except.bind_eq_ok.1 h
    obtain ⟨root, -, h⟩ := Except.bind_eq_ok.1 h
    cases h
    exact ⟨s.name, sub, rfl⟩

theorem Reading.acceptsCall_iff {r : Reading} :
    r.acceptsCall = true ↔ r.escaped = false ∧ r.awaited = none := by
  unfold acceptsCall awaited
  cases r.current <;> simp

/-- An accepted line falls apart: words of the program's level, the word that calls a subcommand,
and the words of the subcommand's level. -/
structure CommandTree.Divides (t : CommandTree) (env : Environment) (before : List String)
    (word : String) (words : List String) (s : Subcommand) (invocation : Invocation) : Prop where
  accepts : t.rootLevel.Accepts false before
  calls : t.rootLevel.call? word = some (.subcommand s)
  reads : ∃ reading root given,
    before.foldlM (Reading.read t.rootLevel) Reading.start = .ok reading ∧
      reading.close env t.arguments = .ok root ∧ t.parseSub env s words = .ok given ∧
      invocation = ⟨t.mergeGlobals root given, some (s.name, given)⟩

theorem CommandTree.divides_of_parse {t : CommandTree} (hneeds : t.needsSubcommand = true)
    (h : t.parse env args = .ok invocation) :
    ∃ before word words s, args.tail = before ++ word :: words ∧
      t.Divides env before word words s invocation := by
  obtain ⟨globals, call⟩ := invocation
  obtain ⟨name, given, rfl⟩ := exists_call hneeds h
  obtain ⟨reading, s, words, root, hscan, -, rfl, hsub, hclose, rfl⟩ := parse_called h
  obtain ⟨before, word, htail, hread, haccepts, hcall⟩ := Level.scan_called hscan
  obtain ⟨hescaped, hawaited⟩ := Reading.acceptsCall_iff.1 haccepts
  have hbefore := Level.accepts_of_read hread hawaited
  rw [hescaped] at hbefore
  exact ⟨before, word, words, s, htail, hbefore, hcall, reading, root, given, hread, hclose, hsub,
    rfl⟩

theorem Reading.awaited_of_close {r : Reading} {arguments : List Argument}
    (h : r.close env arguments = .ok given) : r.awaited = none := by
  obtain ⟨settled, hsettle, -⟩ := Except.bind_eq_ok.1 h
  exact (Reading.settle_eq_ok hsettle).1

theorem CommandTree.parseSub_eq_ok {t : CommandTree} (h : t.parseSub env s words = .ok given) :
    ∃ r, words.foldlM (Reading.read (t.subLevel s)) Reading.start = .ok r ∧
      r.close env (t.subLevel s).arguments = .ok given := by
  unfold parseSub at h
  obtain ⟨⟨r, call⟩, hscan, h⟩ := Except.bind_eq_ok.1 h
  obtain ⟨closed, hclose, h⟩ := Except.bind_eq_ok.1 h
  obtain ⟨-, -, h⟩ := Except.bind_eq_ok.1 h
  cases h
  exact ⟨r, Level.foldlM_read_of_scan rfl hscan, hclose⟩

theorem NamesDisjoint.eq_of_mem_names {commands : List Command} (h : NamesDisjoint commands)
    (hc : c ∈ commands) (hd : d ∈ commands) (hname : name ∈ c.names) (hname' : name ∈ d.names) :
    c = d := by
  have hsymm : Std.Symm fun c d : Command => ∀ name ∈ c.names, name ∉ d.names :=
    ⟨fun c d hcd name hd hc => hcd name hc hd⟩
  by_contra hne
  exact h.forall hc hd hne name hname hname'

theorem Command.isNamed_subcommand (c : Command) (word : String) :
    c.subcommand.isNamed word = c.isNamed word := by
  unfold Subcommand.isNamed Command.isNamed Command.names
  rw [List.contains_cons, Bool.beq_comm]
  rfl

theorem CommandSet.find?_eq_some (h : set.find? word = some c) :
    c ∈ set.commands ∧ word ∈ c.names := by
  have hnamed : c.isNamed word = true := by simpa using List.find?_some h
  exact ⟨List.mem_of_find?_eq_some h, List.contains_iff_mem.1 hnamed⟩

/-- Every name of a command calls it. -/
theorem NamesDisjoint.find?_eq (h : NamesDisjoint set.commands) (hc : c ∈ set.commands)
    (hword : word ∈ c.names) : set.find? word = some c := by
  cases hfind : set.find? word with
  | none => exact absurd (List.contains_iff_mem.2 hword) (List.find?_eq_none.1 hfind c hc)
  | some d =>
    obtain ⟨hd, hword'⟩ := CommandSet.find?_eq_some hfind
    rw [h.eq_of_mem_names hd hc hword' hword]

theorem Config.find?_subcommands (config : Config) (set : CommandSet) (word : String) :
    ((config.commandTree set).rootLevel.subcommands.find? fun s => s.isNamed word) =
      (set.find? word).map Command.subcommand := by
  simp only [commandTree, CommandTree.rootLevel, List.find?_map, CommandSet.find?,
    Function.comp_def, Command.isNamed_subcommand]

/-- A name of a command calls it, unless it would hide help. -/
theorem Config.call?_of_find? (config : Config) (h : set.find? word = some c) :
    (config.commandTree set).rootLevel.call? word =
      some (if c.name = helpWord then .help else .subcommand c.subcommand) := by
  unfold Level.call?
  rw [config.find?_subcommands, h]
  rfl

/-- A word that calls a subcommand names a command. -/
theorem Config.find?_of_call?
    (h : (config.commandTree set).rootLevel.call? word = some (.subcommand s)) :
    ∃ c, s = c.subcommand ∧ set.find? word = some c := by
  cases hfind : set.find? word with
  | none =>
    unfold Level.call? at h
    rw [config.find?_subcommands, hfind] at h
    dsimp only [Option.map] at h
    split at h <;> cases h
  | some c =>
    rw [config.call?_of_find? hfind] at h
    split at h <;> cases h
    exact ⟨c, rfl, rfl⟩

/-- The level at which a command's flags are read. -/
def Config.commandLevel (config : Config) (set : CommandSet) (c : Command) : Level :=
  (config.commandTree set).subLevel c.subcommand

/-- No flag takes the name of a global argument. -/
theorem notMem_globalFlags (h : name ∉ reservedFlags) : name ∉ globalFlags := by
  intro hglobal
  apply h
  simp only [globalFlags, baseUrlFlag, specPathFlag, healthPathFlag, List.mem_cons,
    List.not_mem_nil, or_false] at hglobal
  simp only [reservedFlags, List.mem_cons]
  exact .inr (hglobal.imp_right (.imp_right .inl))

theorem nodup_commandLevel (h : WellKept doc env parameters c.flags) (config : Config)
    (set : CommandSet) : ((config.commandLevel set c).arguments.map (·.name)).Nodup := by
  have hnames : (config.commandLevel set c).arguments.map (·.name) =
      c.flags.keys ++ globalFlags := by
    rw [← h.names]
    simp [Config.commandLevel, CommandTree.subLevel, Command.subcommand, Config.commandTree,
      Config.globalArguments, Config.globalArgument, Flag.argument, globalFlags,
      Function.comp_def]
  rw [hnames, List.nodup_append]
  refine ⟨c.flags.nodup_keys, by decide, fun name hname name' hglobal heq => ?_⟩
  subst heq
  obtain ⟨f, hf⟩ := Dict.mem_keys_iff.1 hname
  exact notMem_globalFlags (h name f hf).2.1 hglobal

/-- In an accepted call of a command every flag is settled by the words after the call. -/
theorem settled_of_call (hset : (compile doc baseUrl env).run.value = .ok set)
    (hc : c ∈ set.commands) (hparse : (config.commandTree set).parse processEnv args =
      .ok ⟨globals, some (c.name, given)⟩) :
    ∃ reading words, (config.commandTree set).rootLevel.scan Reading.start args.tail =
        .ok (reading, some (.subcommand c.subcommand, words)) ∧
      ∀ f ∈ c.flags.values, f.argument.Settled processEnv
        ((config.commandLevel set c).rawValues f.argument words) (given.get? f.name) := by
  obtain ⟨reading, s, words, -, hscan, hs, hname, hsub, -⟩ := CommandTree.parse_called hparse
  obtain ⟨d, hd, rfl⟩ := List.mem_map.1 hs
  obtain rfl := (namesDisjoint_of_compile hset).eq_of_mem_names hd hc List.mem_cons_self
    (List.mem_cons.2 (.inl hname))
  obtain ⟨r, hread, hclose⟩ := CommandTree.parseSub_eq_ok hsub
  refine ⟨reading, words, hscan, fun f hf => ?_⟩
  exact Level.settled (nodup_commandLevel (wellKept_of_compile hset hc) config set)
    (List.mem_append_left _ (List.mem_map_of_mem hf)) hread hclose

end ApiCli

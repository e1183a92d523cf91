import Mathlib.Data.List.Flatten
import ApiCli.Proofs.Arguments.Assignments
import ApiCli.Proofs.Client.DefaultCommand
import ApiCli.Proofs.Client.Travel

/-!
# Encoding values in a command line

Every choice of values for the flags of a command can be written as a command line that binds the
flags to these values.

* `Command.Spells`: words that give each flag its values, in several words if the flag is an array.
  Words of different flags come in any order.
* `Command.spells_words`: there are such words for all values.
* `boundValues_eq_map`: what is bound when every flag is given on the command line.

**Encoding** (`bound_values_of_spells`): however the values are spelled out, the line calls the
command, and its flags are bound to them.
-/

namespace ApiCli

variable {doc : Document} {env processEnv : Environment} {set : CommandSet} {c : Command} {f : Flag}
  {baseUrl : String} {values : Flag → List Datum}

/-- A word that gives values to a flag: the values with their spellings. -/
structure Assignment where
  flag : Flag
  parts : List (Datum × String)

namespace Assignment

def data (a : Assignment) : List Datum := a.parts.map (·.1)

/-- The spellings with commas between them. -/
def text (a : Assignment) : String := ",".intercalate (a.parts.map (·.2))

def word (a : Assignment) : String := "--" ++ a.flag.name ++ "=" ++ a.text

/-- What the word gives to its argument. -/
def occurrence (a : Assignment) : Occurrence := (a.flag.argument, a.text)

end Assignment

variable {assignments : List Assignment}

/-- The assignments to a flag. -/
def Flag.assigned (f : Flag) (assignments : List Assignment) : List Assignment :=
  assignments.filter (·.flag = f)

/-- The words give each flag of a command its values and nothing else. -/
structure Command.Spells (c : Command) (values : Flag → List Datum)
    (assignments : List Assignment) : Prop where
  flags : ∀ a ∈ assignments, a.flag ∈ c.flags.values
  nonempty : ∀ a ∈ assignments, a.parts ≠ []
  spelled : ∀ a ∈ assignments, ∀ p ∈ a.parts, p.1.Spelled p.2
  values : ∀ f ∈ c.flags.values, (f.assigned assignments).flatMap Assignment.data = values f

/-! ## Single words -/

/-- One word for each flag, with its values as they are kept. -/
theorem Command.spells_words (hnames : (c.flags.values.map (·.name)).Nodup)
    (hvalues : ∀ f ∈ c.flags.values, f.type.Holds (values f)) :
    c.Spells values
      (c.flags.values.map fun f => ⟨f, (values f).map fun d => (d, d.word)⟩) where
  flags := by
    intro a ha
    obtain ⟨f, hf, rfl⟩ := List.mem_map.1 ha
    exact hf
  nonempty := by
    intro a ha
    obtain ⟨f, hf, rfl⟩ := List.mem_map.1 ha
    simpa using (hvalues f hf).ne_nil
  spelled := by
    intro a ha p hp
    obtain ⟨f, hf, rfl⟩ := List.mem_map.1 ha
    obtain ⟨d, hd, rfl⟩ := List.mem_map.1 hp
    exact d.spelled_word
  values := by
    intro f hf
    have honce : c.flags.values.filter (· = f) = [f] := by
      rw [List.filter_eq, List.count_eq_one_of_mem hnames.of_map hf]
      rfl
    rw [Flag.assigned, List.filter_map]
    change ((c.flags.values.filter (· = f)).map _).flatMap Assignment.data = values f
    rw [honce, List.map_singleton, List.flatMap_singleton, Assignment.data, List.map_map]
    exact List.map_id _

namespace Command.Spells

variable (h : c.Spells values assignments) (hnames : (c.flags.values.map (·.name)).Nodup)
  (hvalues : ∀ f ∈ c.flags.values, f.type.Holds (values f))
include h

/-- The values of the words to a flag, word by word. -/
theorem flatten_data (hf : f ∈ c.flags.values) :
    ((f.assigned assignments).map Assignment.data).flatten = values f := by
  rw [← h.values f hf, List.flatMap_def]

theorem data_ne_nil :
    ∀ data ∈ (f.assigned assignments).map Assignment.data, data ≠ [] := by
  intro data hdata
  obtain ⟨a, ha, rfl⟩ := List.mem_map.1 hdata
  exact mt List.map_eq_nil_iff.1 (h.nonempty a (List.mem_filter.1 ha).1)

include hvalues in
/-- Every word is read as the values that it spells. -/
theorem readAll?_text {a : Assignment} (ha : a ∈ assignments) :
    a.flag.type.readAll? [a.text] = some (a.data.map Datum.word) := by
  have hf := h.flags a ha
  have hholds := hvalues a.flag hf
  rw [← h.flatten_data hf] at hholds
  have hdata : a.data ∈ (a.flag.assigned assignments).map Assignment.data :=
    List.mem_map_of_mem (List.mem_filter.2 ⟨ha, decide_eq_true rfl⟩)
  rw [Assignment.text, FlagType.readAll?_intercalate (h.spelled a ha)
    (hholds.chunk h.data_ne_nil a.data hdata), Assignment.data, List.map_map]
  rfl

include hnames hvalues in
/-- A flag that takes one value is given in one word. -/
theorem pairwise :
    assignments.Pairwise fun a a' => a'.flag.type.isArray = false → a.flag.name ≠ a'.flag.name := by
  rw [List.pairwise_iff_forall_sublist]
  intro a a' hsublist hsingle hname
  have ha : a ∈ assignments := hsublist.subset List.mem_cons_self
  have ha' : a' ∈ assignments := hsublist.subset (List.mem_cons_of_mem _ List.mem_cons_self)
  have hflag : a.flag = a'.flag :=
    List.inj_on_of_nodup_map hnames (h.flags a ha) (h.flags a' ha') hname
  have hf := h.flags a' ha'
  have hholds := hvalues a'.flag hf
  rw [← h.flatten_data hf] at hholds
  have hlength := hholds.length_le_one h.data_ne_nil hsingle
  have htwo := (hsublist.filter (·.flag = a'.flag)).length_le
  rw [List.filter_eq_self.2 (by simp [hflag])] at htwo
  rw [List.length_map] at hlength
  exact Nat.not_succ_le_self 1 (Nat.le_trans htwo hlength)

/-! ## All words -/

include hnames in
/-- What the words give to the argument of a flag. -/
theorem rawValues_occurrences (hf : f ∈ c.flags.values) :
    rawValues f.argument (assignments.map Assignment.occurrence) =
      (f.assigned assignments).map Assignment.text := by
  rw [rawValues, List.filterMap_map, Flag.assigned, ← List.filterMap_eq_filter, List.map_filterMap]
  refine List.filterMap_congr fun a ha => ?_
  have hargument : a.flag.argument = f.argument ↔ a.flag = f :=
    ⟨fun heq => List.inj_on_of_nodup_map hnames (h.flags a ha) hf (congrArg Argument.name heq),
      fun heq => congrArg Flag.argument heq⟩
  by_cases hflag : a.flag = f
  · simp [Assignment.occurrence, Option.guard, hflag]
  · simp [Assignment.occurrence, Option.guard, hargument, hflag]

include hnames hvalues in
/-- The words that assign values to a flag give it the values. -/
theorem readAll?_rawValues (hf : f ∈ c.flags.values) :
    f.type.readAll? (rawValues f.argument (assignments.map Assignment.occurrence)) =
      some ((values f).map Datum.word) := by
  have hreadAll (as : List Assignment)
      (has : ∀ a ∈ as, f.type.readAll? [a.text] = some (a.data.map Datum.word)) :
      f.type.readAll? (as.map Assignment.text) =
        some ((as.flatMap Assignment.data).map Datum.word) := by
    induction as with
    | nil => exact FlagType.readAll?_nil _
    | cons a as ih =>
      obtain ⟨ha, has⟩ := List.forall_mem_cons.1 has
      rw [List.map_cons, List.flatMap_cons, List.map_append]
      exact FlagType.readAll?_cons ha (ih has)
  rw [h.rawValues_occurrences hnames hf, ← h.values f hf]
  refine hreadAll _ fun a ha => ?_
  obtain ⟨ha, hflag⟩ := List.mem_filter.1 ha
  rw [← of_decide_eq_true hflag]
  exact h.readAll?_text hvalues ha

include hnames hvalues in
theorem rawValues_ne_nil (hf : f ∈ c.flags.values) :
    rawValues f.argument (assignments.map Assignment.occurrence) ≠ [] := by
  intro hnil
  have hread := h.readAll?_rawValues hnames hvalues hf
  rw [hnil, FlagType.readAll?_nil] at hread
  exact (hvalues f hf).ne_nil (List.map_eq_nil_iff.1 (Option.some.inj hread).symm)

end Command.Spells

/-! ## The line -/

theorem CommandTree.parseSub_eq {t : CommandTree} {s : Subcommand} {words : List String}
    {r : Reading} {call : Option (Call × List String)}
    (hscan : (t.subLevel s).scan Reading.start words = .ok (r, call)) :
    t.parseSub processEnv s words = do
      let given ← r.close processEnv (t.subLevel s).arguments
      checkRequired (t.subLevel s).arguments given
      return given := by
  unfold parseSub
  simp only [hscan, Except.ok_bind]

theorem CommandTree.parseSub_of_scan {t : CommandTree} {s : Subcommand} {words : List String}
    {r : Reading} {given : Dict Given} {call : Option (Call × List String)}
    (hscan : (t.subLevel s).scan Reading.start words = .ok (r, call))
    (hclose : r.close processEnv (t.subLevel s).arguments = .ok given)
    (hrequired : checkRequired (t.subLevel s).arguments given = .ok ()) :
    t.parseSub processEnv s words = .ok given := by
  rw [parseSub_eq hscan, hclose, Except.ok_bind, hrequired]
  rfl

/-- A line whose first word calls a subcommand is read by the subcommand. -/
theorem CommandTree.parse_eq_of_call? {t : CommandTree} {s : Subcommand} {word : String}
    {root : Dict Given} (program : String) (words : List String)
    (hcall : t.rootLevel.call? word = some (.subcommand s))
    (hclose : Reading.start.close processEnv t.arguments = .ok root) :
    t.parse processEnv (program :: word :: words) = do
      let given ← t.parseSub processEnv s words
      return ⟨t.mergeGlobals root given, some (s.name, given)⟩ := by
  have hscan : t.rootLevel.scan Reading.start (word :: words) =
      .ok (Reading.start, some (.subcommand s, words)) := by
    have haccepts : Reading.start.acceptsCall = true := rfl
    rw [Level.scan, if_pos haccepts, hcall]
  unfold parse
  simp only [List.tail_cons, hscan, hclose, Except.ok_bind]

theorem CommandTree.parse_of_call? {t : CommandTree} {s : Subcommand} {word : String}
    {words : List String} {given root : Dict Given} (program : String)
    (hcall : t.rootLevel.call? word = some (.subcommand s))
    (hsub : t.parseSub processEnv s words = .ok given)
    (hclose : Reading.start.close processEnv t.arguments = .ok root) :
    t.parse processEnv (program :: word :: words) =
      .ok ⟨t.mergeGlobals root given, some (s.name, given)⟩ := by
  rw [parse_eq_of_call? program words hcall hclose, hsub]
  rfl

/-- Nothing is missing if what has to be given is given explicitly. -/
theorem checkRequired_eq_ok {arguments : List Argument} {given : Dict Given}
    (h : ∀ a ∈ arguments, a.required = true →
      ∃ g, given.get? a.name = some g ∧ g.isExplicit = true) :
    checkRequired arguments given = .ok () := by
  refine if_neg fun hany => ?_
  obtain ⟨a, ha, hmissing⟩ := List.any_eq_true.1 hany
  obtain ⟨hrequired, hnone⟩ := Bool.and_eq_true_iff.1 hmissing
  obtain ⟨g, hget, hexplicit⟩ := h a ha hrequired
  simp [hget, hexplicit] at hnone

theorem Config.not_required_of_mem_globalArguments {config : Config} {a : Argument}
    (ha : a ∈ config.globalArguments) : a.required = false := by
  have hglobals : ∀ a ∈ config.globalArguments, a.required = false := by
    simp [globalArguments, globalArgument]
  exact hglobals a ha

theorem Config.argument_mem_commandLevel (config : Config) (set : CommandSet)
    (hf : f ∈ c.flags.values) : f.argument ∈ (config.commandLevel set c).arguments := by
  rw [config.commandLevel_arguments]
  exact List.mem_append_left _ (List.mem_map_of_mem hf)

/-- The words are assignments at the level of the command. -/
theorem Command.Spells.assigns (h : c.Spells values assignments)
    (hequals : ∀ f ∈ c.flags.values, '=' ∉ f.name.toList) (config : Config) (set : CommandSet)
    (hlevel : ((config.commandLevel set c).arguments.map (·.name)).Nodup) :
    (config.commandLevel set c).Assigns (assignments.map Assignment.occurrence) := by
  refine List.forall_mem_map.2 fun a ha => ⟨hequals a.flag (h.flags a ha), ?_⟩
  exact Level.argument?_of_mem hlevel (config.argument_mem_commandLevel set (h.flags a ha))

/-- A line that spells out values for the flags of a command gives it these values. -/
theorem exists_parseSub {parameters : List Parameter} (config : Config) (set : CommandSet)
    (processEnv : Environment) (hkept : WellKept doc env parameters c.flags)
    (hequals : ∀ f ∈ c.flags.values, '=' ∉ f.name.toList)
    (hvalues : ∀ f ∈ c.flags.values, f.type.Holds (values f)) (h : c.Spells values assignments) :
    ∃ given, (config.commandTree set).parseSub processEnv c.subcommand
        (assignments.map Assignment.word) = .ok given ∧
      ∀ f ∈ c.flags.values,
        given.get? f.name = some ⟨.commandLine, (values f).map Datum.word⟩ := by
  have hnames : (c.flags.values.map (·.name)).Nodup := hkept.names ▸ c.flags.nodup_keys
  have hlevel := nodup_commandLevel hkept config set
  have harguments := config.commandLevel_arguments set c
  have hraws := fun f hf => h.rawValues_ne_nil hnames hvalues (f := f) hf
  have hread : ∀ o ∈ assignments.map Assignment.occurrence, (o.1.type.readAll? [o.2]).isSome :=
    List.forall_mem_map.2 fun a ha => Option.isSome_iff_exists.2 ⟨_, h.readAll?_text hvalues ha⟩
  have honce : (assignments.map Assignment.occurrence).Pairwise fun o o' =>
      o'.1.isRepeatable = false → o.1.name ≠ o'.1.name :=
    List.pairwise_map.2 (h.pairwise hnames hvalues)
  have hrest : ∀ a ∈ (config.commandLevel set c).arguments,
      rawValues a (assignments.map Assignment.occurrence) ≠ [] ∨ a.type = .single .string := by
    rw [harguments]
    exact List.forall_mem_append.2 ⟨List.forall_mem_map.2 fun f hf => .inl (hraws f hf),
      fun a ha => .inr (Config.of_mem_globalArguments ha).2.2.2⟩
  obtain ⟨reading, given, hscan, hclose, hsettled⟩ :=
    (config.commandLevel set c).exists_given processEnv rfl hlevel
      (h.assigns hequals config set hlevel) hread honce hrest
  rw [List.map_map] at hscan
  have hgiven : ∀ f ∈ c.flags.values,
      given.get? f.name = some ⟨.commandLine, (values f).map Datum.word⟩ := fun f hf =>
    (hsettled f.argument (config.argument_mem_commandLevel set hf)).unique
      (.commandLine (hraws f hf) (h.readAll?_rawValues hnames hvalues hf))
  have hrequired : checkRequired (config.commandLevel set c).arguments given = .ok () := by
    refine checkRequired_eq_ok ?_
    rw [harguments]
    refine List.forall_mem_append.2
      ⟨List.forall_mem_map.2 fun f hf _ => ⟨_, hgiven f hf, rfl⟩, fun a ha hrequired => ?_⟩
    rw [Config.not_required_of_mem_globalArguments ha] at hrequired
    cases hrequired
  exact ⟨given, CommandTree.parseSub_of_scan hscan hclose hrequired, hgiven⟩

/-- When every flag is given on the command line, all are bound explicitly. -/
theorem boundValues_eq_map {parameters : List Parameter} {given : Dict Given}
    {kept : Flag → List String} (hkept : WellKept doc env parameters c.flags)
    (hgiven : ∀ f ∈ c.flags.values, given.get? f.name = some ⟨.commandLine, kept f⟩) :
    boundValues c given = c.flags.map fun f => ⟨kept f, true⟩ := by
  have hfold : boundValues c given =
      Dict.ofList (c.flags.map fun f => (⟨kept f, true⟩ : Bound)).entries := by
    rw [boundValues, Dict.ofList, Dict.map, Dict.keys, List.foldl_map, List.foldl_map]
    refine List.foldl_ext _ _ _ fun bound e he => ?_
    have hname : e.2.name = e.1 := (hkept e.1 e.2 (Dict.get?_eq_some_iff.2 he)).1
    have hgiven := hgiven e.2 (List.mem_map_of_mem he)
    rw [hname] at hgiven
    rw [hgiven]
    rfl
  rw [hfold]
  exact Dict.ext (Dict.entries_ofList (Dict.map _ c.flags).increase)

/-- A command line encodes the values of a command's flags: whatever values of their types the flags
have, and however they are spelled out, the line calls the command and its flags are bound to these
values, all of them explicitly. -/
theorem bound_values_of_spells (config : Config) (processEnv : Environment) (program : String)
    (hset : (compile doc baseUrl env).run.value = .ok set)
    (hc : c ∈ set.commands) (hcallable : c.name ≠ helpWord)
    (hequals : ∀ f ∈ c.flags.values, '=' ∉ f.name.toList)
    (hvalues : ∀ f ∈ c.flags.values, f.type.Holds (values f)) (h : c.Spells values assignments) :
    set.find? c.name = some c ∧ ∃ globals given,
      (config.commandTree set).parse processEnv
          (program :: c.name :: assignments.map Assignment.word) =
        .ok ⟨globals, some (c.name, given)⟩ ∧
      boundValues c given = c.flags.map fun f => ⟨(values f).map Datum.word, true⟩ := by
  have hkept := wellKept_of_compile hset hc
  have hfind : set.find? c.name = some c :=
    (namesDisjoint_of_compile hset).find?_eq hc List.mem_cons_self
  have hcall : (config.commandTree set).rootLevel.call? c.name =
      some (.subcommand c.subcommand) := by
    rw [config.call?_of_find? hfind, if_neg hcallable]
  obtain ⟨given, hsub, hgiven⟩ := exists_parseSub config set processEnv hkept hequals hvalues h
  obtain ⟨root, hclose⟩ := Reading.exists_close Dict.empty processEnv fun a ha =>
    .inr (Config.of_mem_globalArguments ha).2.2.2
  exact ⟨hfind, _, given, CommandTree.parse_of_call? program hcall hsub hclose,
    boundValues_eq_map hkept hgiven⟩

/-! ## A line of the sample -/

/-- Values for the flags of the sample. -/
def sampleValues (f : Flag) : List Datum :=
  if f.name = "key" then [.text "--a=,b"]
  else if f.name = "page-size" then [.integer (-7)]
  else [.integer 1, .integer 2, .integer 3]

/-- The tags in two words, with the key between them. -/
def sampleAssignments : List Assignment :=
  let tag := sampleFlag "tag" "tag" (.array .integer) none false
  [⟨tag, [(.integer 1, "1"), (.integer 2, "+02")]⟩,
    ⟨sampleFlag "key" "key" (.single .string) (some "secret") true, [(.text "--a=,b", "--a=,b")]⟩,
    ⟨tag, [(.integer 3, "3")]⟩,
    ⟨sampleFlag "page-size" "pageSize" (.single .integer) (some "10") false,
      [(.integer (-7), "-7")]⟩]

theorem spells_sampleAssignments : sampleCommand.Spells sampleValues sampleAssignments := by
  have hword {d : Datum} {w : String} (h : d.word = w) : d.Spelled w := h ▸ d.spelled_word
  have hnumber : Datum.number ['0', '2'] = 2 := by decide
  have hdigits : Datum.Digits ['0', '2'] :=
    ⟨List.cons_ne_nil _ _, List.forall_mem_cons.2 ⟨rfl, List.forall_mem_singleton.2 rfl⟩⟩
  have hplus : (Datum.integer 2).Spelled "+02" := hnumber ▸ .plus hdigits
  refine ⟨by decide +kernel, by decide, ?_, by decide +kernel⟩
  simp only [sampleAssignments, List.forall_mem_cons, List.not_mem_nil, false_implies,
    implies_true, and_true]
  exact ⟨⟨hword (by decide), hplus⟩, .text _, hword (by decide), hword (by decide)⟩

theorem holds_sampleValues : ∀ f ∈ sampleCommand.flags.values, f.type.Holds (sampleValues f) := by
  have hsmall {n : Int} (h : -7 ≤ n ∧ n ≤ 3) : Datum.OfScalar .integer (.integer n) :=
    .integer ⟨Int.le_trans (by decide) h.1, Int.lt_of_le_of_lt h.2 (by decide)⟩
  have hvalues : sampleCommand.flags.values.map (fun f => (f.type, sampleValues f)) =
      [(.single .string, [.text "--a=,b"]), (.single .integer, [.integer (-7)]),
        (.array .integer, [.integer 1, .integer 2, .integer 3])] := by decide +kernel
  have hholds : ∀ p ∈ sampleCommand.flags.values.map (fun f => (f.type, sampleValues f)),
      p.1.Holds p.2 := by
    rw [hvalues]
    simp only [List.forall_mem_cons, List.not_mem_nil, false_implies, implies_true, and_true]
    refine ⟨.single (.text _), .single (hsmall (by decide)), .array (by decide) ?_ ?_⟩
    · simp only [List.forall_mem_cons, List.not_mem_nil, false_implies, implies_true, and_true]
      exact ⟨hsmall (by decide), hsmall (by decide), hsmall (by decide)⟩
    · simp [Datum.CommaFree]
  exact List.forall_mem_map.1 hholds

/-- The line of the sample gives the key, the page size and three tags. -/
theorem bound_values_of_spells_sample :
    (compile sampleDocument "http://h" sampleEnvironment).run.value =
        .ok ⟨[sampleCommand], Registry.empty, "http://h"⟩ ∧
      sampleAssignments.map Assignment.word =
        ["--tag=1,+02", "--key=--a=,b", "--tag=3", "--page-size=-7"] ∧
      ∃ globals given, ((Config.new "app" "" "http://h").commandTree
          ⟨[sampleCommand], Registry.empty, "http://h"⟩).parse (fun _ => none)
            ["app", "list", "--tag=1,+02", "--key=--a=,b", "--tag=3", "--page-size=-7"] =
          .ok ⟨globals, some ("list", given)⟩ ∧
        boundValues sampleCommand given = Dict.ofList
          [("key", ⟨["--a=,b"], true⟩), ("page-size", ⟨["-7"], true⟩),
            ("tag", ⟨["1", "2", "3"], true⟩)] := by
  have hset : (compile sampleDocument "http://h" sampleEnvironment).run.value =
      .ok ⟨[sampleCommand], Registry.empty, "http://h"⟩ := by rfl
  have hwords : sampleAssignments.map Assignment.word =
      ["--tag=1,+02", "--key=--a=,b", "--tag=3", "--page-size=-7"] := by decide +kernel
  obtain ⟨-, globals, given, hparse, hbound⟩ := bound_values_of_spells
    (Config.new "app" "" "http://h") (fun _ => none) "app" hset List.mem_cons_self (by decide)
    (by decide +kernel) holds_sampleValues spells_sampleAssignments
  rw [hwords] at hparse
  refine ⟨hset, hwords, globals, given, hparse, ?_⟩
  rw [hbound]
  decide +kernel

end ApiCli

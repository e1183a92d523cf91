import ApiCli.Proofs.Client.Encoding

/-!
# Calls with the required flags

Lines that give a command the flags that the command line has to give, and no others. What is left
out takes its default.

* `Command.GivesRequired` describes such lines.
* `Flag.DefaultReads` says that the default of a flag is of the flag's type, if the command line
  takes it.
* `Command.GivesRequired.parseSub_eq`: the words are read, so that only filling in what is left out
  can fail.

**Required flags** (`parse_required_iff`): such a line calls the command exactly if the defaults of
all flags that it leaves out are of their types. Otherwise every such line is refused.
-/

namespace ApiCli

variable {doc : Document} {env processEnv : Environment} {set : CommandSet} {c : Command} {f : Flag}
  {baseUrl : String} {parameters : List Parameter} {assigned : List (Flag × String)}

/-! ## Defaults -/

/-- The default of a flag that the command line need not give is a value of its type. An empty
default of an array stands for no values. -/
def Flag.DefaultReads (f : Flag) : Prop :=
  f.cliRequired = false → ∀ text, f.default = some text →
    (f.type.isArray = true ∧ text = "") ∨ (f.type.readAll? [text]).isSome

theorem Flag.defaultReads_iff : f.DefaultReads ↔ (f.type.readAll? f.argumentDefaults).isSome := by
  unfold DefaultReads argumentDefaults
  cases f.cliRequired with
  | true => simp
  | false =>
    cases f.default with
    | none => simp
    | some text =>
      by_cases harray : f.type.isArray = true
      · by_cases hempty : text = ""
        · simp [harray, hempty]
        · simp [harray, hempty, FlagType.readAll?_splitOn harray]
      · simp [harray]

/-! ## Lines -/

/-- What a flag is given. -/
def Flag.assignment (a : Flag × String) : Occurrence := (a.1.argument, a.2)

/-- Each flag of a command that the command line has to give has one value of its type, and no other
flag has any. The order is left open. -/
structure Command.GivesRequired (c : Command) (assigned : List (Flag × String)) : Prop where
  flags : (assigned.map (·.1)).Perm (c.flags.values.filter Flag.cliRequired)
  values : ∀ a ∈ assigned, (a.1.type.readAll? [a.2]).isSome

namespace Command.GivesRequired

variable (h : c.GivesRequired assigned)
include h

theorem mem_iff : f ∈ assigned.map (·.1) ↔ f ∈ c.flags.values ∧ f.cliRequired = true := by
  rw [h.flags.mem_iff, List.mem_filter]

theorem mem_flags {a : Flag × String} (ha : a ∈ assigned) : a.1 ∈ c.flags.values :=
  (h.mem_iff.1 (List.mem_map_of_mem ha)).1

/-- No flag has a second value. -/
theorem nodup (hnames : (c.flags.values.map (·.name)).Nodup) :
    (assigned.map fun a => a.1.name).Nodup := by
  have hperm := h.flags.map (·.name)
  rw [List.map_map] at hperm
  exact hperm.nodup_iff.2 (hnames.sublist (List.filter_sublist.map _))

/-- What has to be given is given. -/
theorem rawValues_ne_nil (hf : f ∈ c.flags.values) (hrequired : f.cliRequired = true) :
    rawValues f.argument (assigned.map Flag.assignment) ≠ [] := by
  obtain ⟨a, ha, rfl⟩ := List.mem_map.1 (h.mem_iff.2 ⟨hf, hrequired⟩)
  refine List.ne_nil_of_mem (List.mem_filterMap.2 ⟨_, List.mem_map_of_mem ha, if_pos rfl⟩)

theorem rawValues_eq_nil (hnames : (c.flags.values.map (·.name)).Nodup) (hf : f ∈ c.flags.values)
    (hrequired : f.cliRequired = false) :
    rawValues f.argument (assigned.map Flag.assignment) = [] := by
  refine List.filterMap_eq_nil_iff.2 fun o ho => if_neg fun heq => ?_
  obtain ⟨a, ha, rfl⟩ := List.mem_map.1 ho
  have hflag : a.1 = f :=
    List.inj_on_of_nodup_map hnames (h.mem_flags ha) hf (congrArg Argument.name heq)
  obtain ⟨-, hgiven⟩ := h.mem_iff.1 (List.mem_map_of_mem ha)
  rw [hflag, hrequired] at hgiven
  cases hgiven

/-- The words are assignments at the level of the command. -/
theorem assigns (hequals : ∀ f ∈ c.flags.values, '=' ∉ f.name.toList) (config : Config)
    (set : CommandSet) (hlevel : ((config.commandLevel set c).arguments.map (·.name)).Nodup) :
    (config.commandLevel set c).Assigns (assigned.map Flag.assignment) := by
  refine List.forall_mem_map.2 fun a ha => ⟨hequals a.1 (h.mem_flags ha), ?_⟩
  exact Level.argument?_of_mem hlevel (config.argument_mem_commandLevel set (h.mem_flags ha))

/-! ## What the words come to -/

section Reading

variable (config : Config) (hkept : WellKept doc env parameters c.flags)
  (hequals : ∀ f ∈ c.flags.values, '=' ∉ f.name.toList)
include hkept hequals

/-- The words are read to their end, and what has to be given is given. -/
theorem exists_scan (set : CommandSet) :
    ∃ given, (config.commandLevel set c).scan Reading.start
        ((assigned.map Flag.assignment).map Occurrence.word) = .ok (.giving given, none) ∧
      ∀ f ∈ c.flags.values, f.cliRequired = true → (given.get? f.name).isSome := by
  have hnames : (c.flags.values.map (·.name)).Nodup := hkept.names ▸ c.flags.nodup_keys
  have hlevel := nodup_commandLevel hkept config set
  have honce : (assigned.map Flag.assignment).Pairwise fun o o' =>
      o'.1.isRepeatable = false → o.1.name ≠ o'.1.name := by
    refine List.pairwise_map.2 ((List.pairwise_map.1 (h.nodup hnames)).imp ?_)
    exact fun hne _ => hne
  obtain ⟨given, hscan, hgiven⟩ := Level.exists_scan rfl hlevel (h.assigns hequals config set hlevel)
    (List.forall_mem_map.2 h.values) honce
  exact ⟨given, hscan, fun f hf hrequired =>
    hgiven _ (config.argument_mem_commandLevel set hf) (h.rawValues_ne_nil hf hrequired)⟩

variable {given₀ given : Dict Given}
  (hscan : (config.commandLevel set c).scan Reading.start
    ((assigned.map Flag.assignment).map Occurrence.word) = .ok (.giving given₀, none))
include hscan

/-- Once the level is closed, every flag is settled: those that have to be given by the words, the
others by their defaults. -/
theorem settled (hclose : (Reading.giving given₀).close processEnv
      (config.commandLevel set c).arguments = .ok given) (hf : f ∈ c.flags.values) :
    f.argument.Settled processEnv (rawValues f.argument (assigned.map Flag.assignment))
      (given.get? f.name) :=
  have hlevel := nodup_commandLevel hkept config set
  Level.settled_of_scan rfl hlevel (h.assigns hequals config set hlevel) hscan hclose
    (config.argument_mem_commandLevel set hf)

/-- Only filling in what is left out can fail. -/
theorem parseSub_eq : (config.commandTree set).parseSub processEnv c.subcommand
      ((assigned.map Flag.assignment).map Occurrence.word) =
    (Reading.giving given₀).close processEnv (config.commandLevel set c).arguments := by
  rw [CommandTree.parseSub_eq hscan]
  change ((Reading.giving given₀).close processEnv (config.commandLevel set c).arguments >>= _) = _
  cases hclose : (Reading.giving given₀).close processEnv
      (config.commandLevel set c).arguments with
  | error e => rfl
  | ok given =>
    have hrequired : checkRequired (config.commandLevel set c).arguments given = .ok () := by
      refine checkRequired_eq_ok ?_
      rw [config.commandLevel_arguments]
      refine List.forall_mem_append.2
        ⟨List.forall_mem_map.2 fun f hf hrequired => ?_, fun a ha hrequired => ?_⟩
      · obtain ⟨values, hvalues⟩ := (h.settled config hkept hequals hscan hclose hf).of_ne_nil
          (h.rawValues_ne_nil hf hrequired)
        exact ⟨_, hvalues, rfl⟩
      · rw [Config.not_required_of_mem_globalArguments ha] at hrequired
        cases hrequired
    rw [Except.ok_bind]
    change (checkRequired (config.commandLevel set c).arguments given >>= _) = _
    rw [hrequired]
    rfl

/-- What is left out can be filled in exactly if the defaults are of their types. -/
theorem exists_close_iff (processEnv : Environment)
    (hgiven₀ : ∀ f ∈ c.flags.values, f.cliRequired = true → (given₀.get? f.name).isSome) :
    (∃ given, (Reading.giving given₀).close processEnv (config.commandLevel set c).arguments =
        .ok given) ↔ ∀ f ∈ c.flags.values, f.DefaultReads := by
  constructor
  · rintro ⟨given, hclose⟩ f hf
    cases hrequired : f.cliRequired with
    | true => exact fun hfalse => absurd hfalse (by simp [hrequired])
    | false =>
      have hnames : (c.flags.values.map (·.name)).Nodup := hkept.names ▸ c.flags.nodup_keys
      have hsettled := h.settled config hkept hequals hscan hclose hf
      rw [h.rawValues_eq_nil hnames hf hrequired] at hsettled
      refine Flag.defaultReads_iff.2 ?_
      generalize given.get? f.name = g at hsettled
      cases hsettled with
      | commandLine hraws => exact absurd rfl hraws
      | environment _ henv => cases henv
      | default _ _ _ hvalues => exact Option.isSome_iff_exists.2 ⟨_, hvalues⟩
      | absent _ _ hdefaults =>
        have hnil : f.argumentDefaults = [] := hdefaults
        rw [hnil, FlagType.readAll?_nil]
        rfl
  · intro hreads
    refine Reading.exists_close_of_fillable given₀ processEnv ?_
    rw [config.commandLevel_arguments]
    refine List.forall_mem_append.2 ⟨List.forall_mem_map.2 fun f hf => ?_, fun a ha => ?_⟩
    · cases hrequired : f.cliRequired with
      | true => exact .inl (hgiven₀ f hf hrequired)
      | false => exact .inr ⟨nofun, Flag.defaultReads_iff.1 (hreads f hf)⟩
    · exact .inr (Argument.fillable_of_string processEnv (Config.of_mem_globalArguments ha).2.2.2)

end Reading
end Command.GivesRequired

/-- A line that gives a command of a document exactly the flags that the command line has to give
calls the command if and only if the defaults of all other flags are values of their types. Else the
line is refused, since an argument that it does not mention has an invalid value. -/
theorem parse_required_iff (config : Config) (processEnv : Environment) (program : String)
    (hset : (compile doc baseUrl env).run.value = .ok set) (hc : c ∈ set.commands)
    (hcallable : c.name ≠ helpWord) (hequals : ∀ f ∈ c.flags.values, '=' ∉ f.name.toList)
    (h : c.GivesRequired assigned) :
    ((∃ globals given, (config.commandTree set).parse processEnv
        (program :: c.name :: assigned.map fun a => "--" ++ a.1.name ++ "=" ++ a.2) =
          .ok ⟨globals, some (c.name, given)⟩) ↔
      ∀ f ∈ c.flags.values, f.DefaultReads) ∧
    ((∃ f ∈ c.flags.values, ¬f.DefaultReads) → (config.commandTree set).parse processEnv
        (program :: c.name :: assigned.map fun a => "--" ++ a.1.name ++ "=" ++ a.2) =
          .error .invalidValue) := by
  have hkept := wellKept_of_compile hset hc
  have hcall : (config.commandTree set).rootLevel.call? c.name =
      some (.subcommand c.subcommand) := by
    have hfind : set.find? c.name = some c :=
      (namesDisjoint_of_compile hset).find?_eq hc List.mem_cons_self
    rw [config.call?_of_find? hfind, if_neg hcallable]
  obtain ⟨root, hroot⟩ : ∃ root, Reading.start.close processEnv config.globalArguments = .ok root :=
    Reading.exists_close Dict.empty processEnv fun a ha =>
      .inr (Config.of_mem_globalArguments ha).2.2.2
  obtain ⟨given₀, hscan, hgiven₀⟩ := h.exists_scan config hkept hequals set
  have hwords : (assigned.map fun a => "--" ++ a.1.name ++ "=" ++ a.2) =
      (assigned.map Flag.assignment).map Occurrence.word := by
    rw [List.map_map]
    rfl
  rw [hwords, CommandTree.parse_eq_of_call? program _ hcall hroot,
    h.parseSub_eq config hkept hequals hscan]
  have hiff := h.exists_close_iff config hkept hequals hscan processEnv hgiven₀
  cases hclose : (Reading.giving given₀).close processEnv
      (config.commandLevel set c).arguments with
  | ok given =>
    have hreads := hiff.1 ⟨given, hclose⟩
    exact ⟨⟨fun _ => hreads, fun _ => ⟨_, given, rfl⟩⟩, fun ⟨f, hf, hnot⟩ => absurd (hreads f hf) hnot⟩
  | error e =>
    obtain rfl := Reading.close_error hclose
    refine ⟨⟨fun ⟨_, _, hok⟩ => (nomatch hok), fun hreads => ?_⟩, fun _ => rfl⟩
    obtain ⟨given, hok⟩ := hiff.2 hreads
    cases hclose.symm.trans hok

/-! ## A default of another type -/

namespace RequiredFlags

/-- A query parameter. -/
def parameter (name type : String) (required : Bool) (default : Option Json) : Parameter :=
  { Parameter.empty with name, required, default, location := .query, type := some type }

/-- A document with one command. It has a required flag and a flag for an integer with a default. -/
def document (limit : Json) : Document :=
  let list : Operation := { Operation.empty with
    command := some "list"
    parameters := [parameter "key" "string" true none, parameter "limit" "integer" false limit] }
  { Document.empty with
    paths := Dict.empty.insert "/items" (PathItem.empty.setOperation .get (some list)) }

def flag (name : String) (scalar : Scalar) (required : Bool) (default : Option String) : Flag :=
  { name, required, default
    paramName := name
    short := none
    description := ""
    type := .single scalar
    location := .query
    fromEnv := false
    envSupplied := false }

def command (limit : String) : Command :=
  { name := "list"
    aliases := []
    method := .get
    path := "/items"
    summary := ""
    description := ""
    flags := Dict.ofList [("key", flag "key" .string true none),
      ("limit", flag "limit" .integer false (some limit))]
    isDefault := false }

def commands (limit : String) : CommandSet := ⟨[command limit], Registry.empty, "http://h"⟩

def config : Config := Config.new "cli" "" "http://h"

theorem values_command (limit : String) : (command limit).flags.values =
    [flag "key" .string true none, flag "limit" .integer false (some limit)] := by
  have hincrease : KeysIncrease [("key", flag "key" .string true none),
      ("limit", flag "limit" .integer false (some limit))] := by
    have hkeys : ["key", "limit"].Pairwise (· < ·) := by decide
    exact Dict.keysIncrease_iff.2 hkeys
  rw [command, Dict.values, Dict.entries_ofList hincrease]
  rfl

/-- The only flag that has to be given, with a value. -/
def keyAlone : List (Flag × String) := [(flag "key" .string true none, "v")]

theorem givesRequired (limit : String) : (command limit).GivesRequired keyAlone where
  flags := by
    rw [values_command]
    exact .refl _
  values := List.forall_mem_singleton.2 rfl

theorem words_keyAlone : (keyAlone.map fun a => "--" ++ a.1.name ++ "=" ++ a.2) = ["--key=v"] := by
  decide

theorem notMem_names (limit : String) :
    ∀ f ∈ (command limit).flags.values, '=' ∉ f.name.toList := by
  rw [values_command]
  simp [flag]

end RequiredFlags

open RequiredFlags in
/-- With an empty default the flag for an integer cannot be left out; with a number it can. -/
theorem parse_required_iff_limit :
    (compile (document (.string "")) "http://h" fun _ => none).run.value = .ok (commands "") ∧
      (command "").GivesRequired keyAlone ∧
      (config.commandTree (commands "")).parse (fun _ => none) ["cli", "list", "--key=v"] =
        .error .invalidValue ∧
      (compile (document (.number "20")) "http://h" fun _ => none).run.value =
        .ok (commands "20") ∧
      ∃ globals given, (config.commandTree (commands "20")).parse (fun _ => none)
        ["cli", "list", "--key=v"] = .ok ⟨globals, some ("list", given)⟩ := by
  have hempty : (compile (document (.string "")) "http://h" fun _ => none).run.value =
      .ok (commands "") := by rfl
  have hnumber : (compile (document (.number "20")) "http://h" fun _ => none).run.value =
      .ok (commands "20") := by rfl
  have hrefused := (parse_required_iff config (fun _ => none) "cli" hempty List.mem_cons_self
    (by decide) (notMem_names "") (givesRequired "")).2
  have hcalled := (parse_required_iff config (fun _ => none) "cli" hnumber List.mem_cons_self
    (by decide) (notMem_names "20") (givesRequired "20")).1
  rw [words_keyAlone] at hrefused hcalled
  rw [values_command] at hrefused hcalled
  refine ⟨hempty, givesRequired "", hrefused ⟨_, List.mem_cons_of_mem _ List.mem_cons_self, ?_⟩,
    hnumber, hcalled.2 (List.forall_mem_cons.2 ⟨?_, List.forall_mem_singleton.2 ?_⟩)⟩
  · rw [Flag.defaultReads_iff]
    decide
  · rw [Flag.defaultReads_iff]
    decide
  · rw [Flag.defaultReads_iff]
    decide

end ApiCli

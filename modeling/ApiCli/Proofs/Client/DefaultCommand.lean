import ApiCli.Client.Run
import ApiCli.Proofs.Client.Call
import ApiCli.Proofs.Client.GlobalWords
import ApiCli.Proofs.Command.Consistency

/-!
# When the default command runs

`withDefaultCommand` guesses from single words what the command line, which it cannot read yet, will
say. Here its guess is compared with the reading.

* `firstPositional_append`: among accepted words, the guess takes for the first positional word the
  first separate value of an argument that is not global.
* `helpRequested_iff`: of accepted words, only a separate value can look like a request for help.

**A command that is called runs** (`Client.withDefaultCommand_of_accepted`): the words before a call
have only global arguments, so the guess finds the word that calls.

**A command that is not named** (`withDefaultCommand_eq_iff`): after the name of the default command
the guess is right about all words unless they mislead (`Level.Mislead`).
-/

namespace ApiCli

variable {doc : Document} {env processEnv : Environment} {config : Config} {set : CommandSet}
  {c d : Command} {l : Level} {word value program baseUrl : String}
  {words rest args : List String} {invocation : Invocation}

/-! ## The first positional word -/

theorem any_globalFlags_iff :
    (globalFlags.any fun flag => word = "--" ++ flag) = true ↔ GlobalWord.ofString word = .name := by
  rw [List.any_eq_true, GlobalWord.ofString_eq_name_iff_word]
  simp only [decide_eq_true_eq]

theorem firstPositional_of_positional (h : word.toList.head? ≠ some '-') (rest : List String) :
    firstPositional (word :: rest) = some word := by
  cases rest <;> simp [firstPositional, h]

theorem firstPositional_of_option (hhyphen : word.toList.head? = some '-')
    (hword : GlobalWord.ofString word ≠ .name) (rest : List String) :
    firstPositional (word :: rest) = firstPositional rest := by
  rw [Ne, ← any_globalFlags_iff] at hword
  cases rest with
  | nil => simp [firstPositional, hhyphen]
  | cons next rest => rw [firstPositional, if_pos hhyphen, if_neg hword]

theorem firstPositional_of_name (hword : GlobalWord.ofString word = .name) (value : String)
    (rest : List String) : firstPositional (word :: value :: rest) = firstPositional rest := by
  have hhyphen : word.toList.head? = some '-' := by
    obtain ⟨flag, -, rfl⟩ := GlobalWord.ofString_eq_name_iff_word.1 hword
    simp
  rw [firstPositional, if_pos hhyphen, if_pos (any_globalFlags_iff.2 hword)]

/-- A separate value that looks like a positional word to whoever knows only the global
arguments. -/
def looksPositional (o : Occurrence) : Bool := !o.1.isGlobal && o.2 ≠ "-"

/-- Of accepted words, the separate values of arguments that are not global look positional. -/
theorem firstPositional_append (hl : l.OffersGlobals config) (h : l.Accepts escaped words)
    (rest : List String) :
    firstPositional (words ++ rest) =
      (((l.separateValues none words).find? looksPositional).map (·.2)).or
        (firstPositional rest) := by
  induction h with
  | nil => rfl
  | escape => exact firstPositional_of_option (by decide) (by decide) rest
  | @alone word escaped words hknows halone _ ih =>
    rw [List.cons_append, firstPositional_of_option hknows.head? (hl.ne_name_of_alone halone), ih,
      Level.separateValues, halone]
  | @valued word a value escaped words hknows hvalued hplain _ ih =>
    rw [List.cons_append, List.cons_append, Level.separateValues, hvalued, Level.separateValues]
    obtain ⟨hglobal, hword⟩ | ⟨hlocal, hword⟩ := hl.of_awaiting hvalued
    · rw [firstPositional_of_name hword, List.find?_cons_of_neg (by simp [looksPositional, hglobal]),
        ih]
    · rw [firstPositional_of_option hknows.head? (by simp [hword])]
      -- the value `-` is passed over like an option
      rcases Word.ofString_eq_plain_iff.1 hplain with rfl | hhead
      · rw [firstPositional_of_option (by decide) (by decide), ih,
          List.find?_cons_of_neg (by simp [looksPositional])]
      · have hne : value ≠ "-" := by
          rintro rfl
          exact hhead rfl
        rw [firstPositional_of_positional hhead,
          List.find?_cons_of_pos (by simp [looksPositional, hlocal, hne])]
        rfl

/-! ## Requests for help -/

/-- No option asks for help where no argument has its names. -/
theorem Level.Knows.not_helpRequest (hlong : l.argument? helpWord = none)
    (hshort : l.short? 'h' = none) (h : l.Knows word) : helpRequests.contains word = false := by
  rw [← Bool.not_eq_true]
  intro hhelp
  simp only [helpRequests, List.contains_iff_mem, List.mem_cons, List.not_mem_nil,
    or_false] at hhelp
  rcases hhelp with rfl | rfl | rfl
  · exact h.not_plain rfl
  · obtain ⟨c, hc, hsome⟩ : ∃ c ∈ ['h'].head?, (l.short? c).isSome := h
    cases hc
    rw [hshort] at hsome
    cases hsome
  · have hsome : (l.argument? helpWord).isSome := h
    rw [hlong] at hsome
    cases hsome

theorem helpRequest_iff_of_plain (h : Word.ofString word = .plain) :
    helpRequests.contains word = true ↔ word = helpWord := by
  simp only [helpRequests, List.contains_iff_mem, List.mem_cons, List.not_mem_nil, or_false]
  refine ⟨?_, .inl⟩
  rintro (rfl | rfl | rfl)
  · rfl
  · cases h
  · cases h

/-- Accepted words contain a request for help exactly if a separate value is the help word. -/
theorem helpRequested_iff (hlong : l.argument? helpWord = none) (hshort : l.short? 'h' = none)
    (h : l.Accepts escaped words) :
    (words.any fun word => helpRequests.contains word) = true ↔
      ∃ o ∈ l.separateValues none words, o.2 = helpWord := by
  induction h with
  | nil => simp [Level.separateValues]
  | escape => exact iff_of_false (by decide) (by simp [Level.separateValues])
  | alone hknows halone _ ih =>
    rw [List.any_cons, hknows.not_helpRequest hlong hshort, Bool.false_or, Level.separateValues,
      halone]
    exact ih
  | valued hknows hvalued hplain _ ih =>
    rw [List.any_cons, List.any_cons, hknows.not_helpRequest hlong hshort, Bool.false_or,
      Bool.or_eq_true, helpRequest_iff_of_plain hplain, Level.separateValues, hvalued,
      Level.separateValues]
    simp only [List.mem_cons, exists_eq_or_imp]
    exact or_congr_right ih

/-! ## The levels of a client -/

theorem Config.rootLevel_offersGlobals (config : Config) (set : CommandSet) :
    (config.commandTree set).rootLevel.OffersGlobals config :=
  ⟨[], rfl, nofun⟩

theorem Config.commandLevel_arguments (config : Config) (set : CommandSet) (c : Command) :
    (config.commandLevel set c).arguments =
      c.flags.values.map Flag.argument ++ config.globalArguments := rfl

theorem commandLevel_offersGlobals (hset : (compile doc baseUrl env).run.value = .ok set)
    (hc : c ∈ set.commands) (config : Config) :
    (config.commandLevel set c).OffersGlobals config := by
  refine ⟨_, config.commandLevel_arguments set c, fun a ha => ?_⟩
  obtain ⟨f, hf, rfl⟩ := List.mem_map.1 ha
  exact ⟨rfl, notMem_globalFlags ((wellKept_of_compile hset hc).name_of_mem hf).2.1⟩

/-- No flag of a command is in the way of help. -/
theorem commandLevel_help (hset : (compile doc baseUrl env).run.value = .ok set)
    (hc : c ∈ set.commands) (config : Config) :
    (config.commandLevel set c).argument? helpWord = none ∧
      (config.commandLevel set c).short? 'h' = none := by
  simp only [Level.argument?, Level.short?, config.commandLevel_arguments, List.find?_eq_none,
    List.forall_mem_append, List.forall_mem_map, decide_eq_true_eq]
  refine ⟨⟨fun f hf hname => ?_, ?_⟩, fun f hf hshort => ?_, ?_⟩
  · apply ((wellKept_of_compile hset hc).name_of_mem hf).2.1
    rw [show f.name = helpWord from hname]
    exact List.mem_cons_self
  · intro a ha hname
    have hglobal := (Config.of_mem_globalArguments ha).2.1
    rw [hname] at hglobal
    revert hglobal
    decide
  · exact (shorts_of_compile hset hc).2 (List.mem_filterMap.2 ⟨f, hf, hshort⟩)
  · intro a ha hshort
    rw [(Config.of_mem_globalArguments ha).2.2.1] at hshort
    cases hshort

/-! ## A sample

A client of an API with a default command, which has a flag, and another command. -/

namespace DefaultCommand

/-- A document with the default command `search` and the command `pods`. -/
def document : Document :=
  let pods : Operation := { Operation.empty with command := some "pods", aliases := ["p"] }
  let search : Operation := { Operation.empty with
    command := some "search"
    isDefault := true
    parameters := [
      { Parameter.empty with name := "topic", location := .query, type := some "string" }] }
  { Document.empty with
    paths := (Dict.empty.insert "/pods" (PathItem.empty.setOperation .get (some pods))).insert
      "/search" (PathItem.empty.setOperation .get (some search)) }

def pods : Command :=
  { name := "pods"
    aliases := ["p"]
    method := .get
    path := "/pods"
    summary := ""
    description := ""
    flags := Dict.empty
    isDefault := false }

def topicFlag : Flag :=
  { name := "topic"
    paramName := "topic"
    short := none
    description := ""
    type := .single .string
    location := .query
    required := false
    default := none
    fromEnv := false
    envSupplied := false }

def search : Command :=
  { name := "search"
    aliases := []
    method := .get
    path := "/search"
    summary := ""
    description := ""
    flags := Dict.ofList [("topic", topicFlag)]
    isDefault := true }

def commands : CommandSet := ⟨[pods, search], Registry.empty, "http://h"⟩

def client : Client := ⟨Config.new "app" "" "http://h", .none, fun _ => none, fun _ => none⟩

/-- What is given where nothing is said about the path of the document. -/
def given (baseUrl : Given) (others : List (String × Given)) : Dict Given :=
  Dict.ofList ([("base-url", baseUrl), ("swagger-path", ⟨.default, ["/swagger.json"]⟩)] ++ others)

end DefaultCommand

/-! ## A command that is called -/

theorem withDefaultCommand_of_positional (hpositional : firstPositional args.tail = some word)
    (hfind : set.find? word = some c) : withDefaultCommand set args = args := by
  unfold withDefaultCommand
  rw [hpositional, Option.bind_some, hfind]
  cases set.default? with
  | none => rfl
  | some d => exact ite_self args

/-- The words before a call hold no positional word. -/
theorem firstPositional_of_divides (h : (config.commandTree set).Divides processEnv before word words
    s invocation) (hhead : word.toList.head? ≠ some '-') :
    firstPositional (before ++ word :: words) = some word := by
  have hnone : ((config.commandTree set).rootLevel.separateValues none before).find?
      looksPositional = none := by
    rw [List.find?_eq_none]
    intro o ho
    have hmem := Level.mem_of_occurrences (by simp) o ((Level.separateValues_sublist ..).mem ho)
    simp [looksPositional, (Config.of_mem_globalArguments hmem).1]
  rw [firstPositional_append (config.rootLevel_offersGlobals set) h.accepts, hnone,
    firstPositional_of_positional hhead]
  rfl

/-- Where no name of a command begins with a hyphen, an accepted line stays as it is: its first
positional word names a command, and that is the command that is called and run. -/
theorem Client.withDefaultCommand_of_accepted (client : Client)
    (hset : (compile doc baseUrl env).run.value = .ok set)
    (hnames : ∀ c ∈ set.commands, ∀ name ∈ c.names, name.toList.head? ≠ some '-')
    (hparse : (client.config.commandTree set).parse client.processEnv args = .ok invocation) :
    withDefaultCommand set args = args ∧
      ∃ c ∈ set.commands, ∃ word ∈ c.names, ∃ given,
        firstPositional args.tail = some word ∧ invocation.call = some (c.name, given) ∧
        client.parseCall set args = .ok (c, boundValues c given) := by
  obtain ⟨before, word, words, s, htail, hdivides⟩ := CommandTree.divides_of_parse rfl hparse
  obtain ⟨c, rfl, hfind⟩ := Config.find?_of_call? hdivides.calls
  obtain ⟨hc, hword⟩ := CommandSet.find?_eq_some hfind
  have hpositional : firstPositional args.tail = some word := by
    rw [htail]
    exact firstPositional_of_divides hdivides (hnames c hc word hword)
  have hsame := withDefaultCommand_of_positional hpositional hfind
  obtain ⟨reading, root, given, -, -, -, rfl⟩ := hdivides.reads
  have hname : set.find? c.subcommand.name = some c :=
    (namesDisjoint_of_compile hset).find?_eq hc List.mem_cons_self
  refine ⟨hsame, c, hc, word, hword, given, hpositional, rfl, ?_⟩
  unfold Client.parseCall
  rw [hsame]
  simp only [hparse, hname]
  rfl

open DefaultCommand in
/-- A base URL that is the name of the default command does not call it. -/
theorem Client.withDefaultCommand_of_accepted_alias :
    (compile document "http://h" client.env).run.value = .ok commands ∧
      (∀ c ∈ commands.commands, ∀ name ∈ c.names, name.toList.head? ≠ some '-') ∧
      (client.config.commandTree commands).parse client.processEnv
          ["app", "--base-url", "search", "p", "--health-path=/"] =
        .ok ⟨given ⟨.commandLine, ["search"]⟩ [("health-path", ⟨.commandLine, ["/"]⟩)],
          some ("pods", given ⟨.default, ["http://h"]⟩ [("health-path", ⟨.commandLine, ["/"]⟩)])⟩ ∧
      withDefaultCommand commands ["app", "--base-url", "search", "p", "--health-path=/"] =
        ["app", "--base-url", "search", "p", "--health-path=/"] := by
  have hset : (compile document "http://h" client.env).run.value = .ok commands := by rfl
  have hnames : ∀ c ∈ commands.commands, ∀ name ∈ c.names, name.toList.head? ≠ some '-' := by
    decide
  have hparse : (client.config.commandTree commands).parse client.processEnv
      ["app", "--base-url", "search", "p", "--health-path=/"] =
    .ok ⟨given ⟨.commandLine, ["search"]⟩ [("health-path", ⟨.commandLine, ["/"]⟩)],
      some ("pods", given ⟨.default, ["http://h"]⟩ [("health-path", ⟨.commandLine, ["/"]⟩)])⟩ := by
    rfl
  exact ⟨hset, hnames, hparse, (client.withDefaultCommand_of_accepted hset hnames hparse).1⟩

/-! ## A command that is not named -/

/-- Words mislead a guess that knows only the global arguments: a separate value is the help word,
or the first one that looks positional names a command. -/
def Level.Mislead (l : Level) (set : CommandSet) (words : List String) : Prop :=
  (∃ o ∈ l.separateValues none words, o.2 = helpWord) ∨
    ∃ o ∈ (l.separateValues none words).find? looksPositional, (set.find? o.2).isSome

instance (l : Level) (set : CommandSet) (words : List String) : Decidable (l.Mislead set words) :=
  inferInstanceAs (Decidable ((∃ o ∈ l.separateValues none words, o.2 = helpWord) ∨
    ∃ o ∈ (l.separateValues none words).find? looksPositional, (set.find? o.2).isSome))

/-- The words after a call of a command, by its name, are accepted by its level. -/
theorem accepts_of_named (hset : (compile doc baseUrl env).run.value = .ok set)
    (hc : c ∈ set.commands)
    (hparse : (config.commandTree set).parse processEnv (program :: c.name :: rest) =
      .ok invocation) :
    ∃ escaped, (config.commandLevel set c).Accepts escaped rest := by
  obtain ⟨globals, call⟩ := invocation
  obtain ⟨name, given, rfl⟩ := CommandTree.exists_call rfl hparse
  obtain ⟨reading, s, words, root, hscan, -, -, hsub, -, -⟩ := CommandTree.parse_called hparse
  have hfind : set.find? c.name = some c :=
    (namesDisjoint_of_compile hset).find?_eq hc List.mem_cons_self
  -- the name stands first, so nothing can keep it from calling
  have hcalls : (config.commandTree set).rootLevel.scan Reading.start (c.name :: rest) =
      .ok (.start, some (if c.name = helpWord then .help else .subcommand c.subcommand, rest)) := by
    have hstart : Reading.start.acceptsCall = true := rfl
    rw [Level.scan, hstart, if_pos rfl, config.call?_of_find? hfind]
  rw [List.tail_cons, hcalls] at hscan
  split at hscan
  · cases hscan
  · cases hscan
    obtain ⟨r, hread, hclose⟩ := CommandTree.parseSub_eq_ok hsub
    exact ⟨r.escaped, Level.accepts_of_read hread (Reading.awaited_of_close hclose)⟩

theorem withDefaultCommand_eq_cons_iff (hdefault : set.default? = some d) :
    withDefaultCommand set (program :: rest) = program :: d.name :: rest ↔
      ¬((rest.any fun word => helpRequests.contains word) = true ∨
        ((firstPositional rest).bind set.find?).isSome) := by
  have hne : program :: rest ≠ program :: d.name :: rest := by
    intro heq
    simpa using congrArg List.length heq
  unfold withDefaultCommand
  rw [hdefault, List.tail_cons]
  dsimp only
  by_cases hhelp : (rest.any fun word => helpRequests.contains word) = true
  · rw [if_pos hhelp]
    exact iff_of_false hne (not_not.2 (.inl hhelp))
  · rw [if_neg hhelp]
    by_cases hfound : ((firstPositional rest).bind set.find?).isSome = true
    · rw [if_pos hfound]
      exact iff_of_false hne (not_not.2 (.inr hfound))
    · rw [if_neg hfound]
      exact iff_of_true rfl (not_or.2 ⟨hhelp, hfound⟩)

/-- Where the line is accepted with the name of the default command, that name is put in exactly if
the words do not mislead. -/
theorem withDefaultCommand_eq_iff (hset : (compile doc baseUrl env).run.value = .ok set)
    (hdefault : set.default? = some d)
    (hparse : (config.commandTree set).parse processEnv (program :: d.name :: rest) =
      .ok invocation) :
    withDefaultCommand set (program :: rest) = program :: d.name :: rest ↔
      ¬(config.commandLevel set d).Mislead set rest := by
  have hd : d ∈ set.commands := List.mem_of_find?_eq_some hdefault
  obtain ⟨escaped, haccepts⟩ := accepts_of_named hset hd hparse
  obtain ⟨hlong, hshort⟩ := commandLevel_help hset hd config
  have hpositional :=
    firstPositional_append (commandLevel_offersGlobals hset hd config) haccepts []
  rw [List.append_nil, firstPositional, Option.or_none] at hpositional
  rw [withDefaultCommand_eq_cons_iff hdefault, helpRequested_iff hlong hshort haccepts,
    hpositional, Level.Mislead]
  cases ((config.commandLevel set d).separateValues none rest).find? looksPositional <;> simp

open DefaultCommand in
/-- The default command need not be named for the topic `help` in one word; it has to be for the
topic `pods` in a word of its own, which is the name of another command. -/
theorem withDefaultCommand_eq_iff_topics :
    (compile document "http://h" client.env).run.value = .ok commands ∧
      commands.default? = some search ∧
      (client.config.commandTree commands).parse client.processEnv
          ["app", "search", "--topic=help", "--base-url", "pods"] =
        .ok ⟨given ⟨.commandLine, ["pods"]⟩ [],
          some ("search", given ⟨.commandLine, ["pods"]⟩ [("topic", ⟨.commandLine, ["help"]⟩)])⟩ ∧
      withDefaultCommand commands ["app", "--topic=help", "--base-url", "pods"] =
        ["app", "search", "--topic=help", "--base-url", "pods"] ∧
      (client.config.commandTree commands).parse client.processEnv
          ["app", "search", "--topic", "pods"] =
        .ok ⟨given ⟨.default, ["http://h"]⟩ [],
          some ("search", given ⟨.default, ["http://h"]⟩ [("topic", ⟨.commandLine, ["pods"]⟩)])⟩ ∧
      withDefaultCommand commands ["app", "--topic", "pods"] ≠
        ["app", "search", "--topic", "pods"] := by
  have hset : (compile document "http://h" client.env).run.value = .ok commands := by rfl
  have hdefault : commands.default? = some search := by rfl
  have hhelp : (client.config.commandTree commands).parse client.processEnv
      ["app", "search", "--topic=help", "--base-url", "pods"] =
    .ok ⟨given ⟨.commandLine, ["pods"]⟩ [],
      some ("search", given ⟨.commandLine, ["pods"]⟩ [("topic", ⟨.commandLine, ["help"]⟩)])⟩ := by
    rfl
  have hpods : (client.config.commandTree commands).parse client.processEnv
      ["app", "search", "--topic", "pods"] =
    .ok ⟨given ⟨.default, ["http://h"]⟩ [],
      some ("search", given ⟨.default, ["http://h"]⟩ [("topic", ⟨.commandLine, ["pods"]⟩)])⟩ := by
    rfl
  refine ⟨hset, hdefault, hhelp, ?_, hpods, ?_⟩
  · exact (withDefaultCommand_eq_iff hset hdefault hhelp).2 (by decide)
  · intro heq
    exact (withDefaultCommand_eq_iff hset hdefault hpods).1 heq (by decide)

end ApiCli

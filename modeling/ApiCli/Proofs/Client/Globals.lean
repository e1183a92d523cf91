import ApiCli.Proofs.Client.DefaultCommand
import ApiCli.Proofs.Client.Protocol
import ApiCli.Proofs.Client.Travel

/-!
# Global arguments in both readings

A client reads its global arguments twice: from the words that concern them, before it knows any
command, and again in the whole line. The requests depend on the first reading.

* `Argument.Settled.stronger`: the stronger of what two levels give an argument is what the words of
  both give it. It is given on one of them at most.
* `CommandTree.get?_mergeGlobals`: that is what a finished line holds.

**The readings agree** (`Client.globals_agree`): wherever the global arguments stand, in either
spelling, from the environment or by default, both readings find the same. So every request of the
invocation goes to the base URL of the whole line.
-/

namespace ApiCli

variable {doc : Document} {env processEnv : Environment} {config : Config} {set : CommandSet}
  {a : Argument} {baseUrl : String} {args words : List String} {invocation : Invocation}

/-! ## Two levels -/

namespace CommandTree

theorem strongerGiven_self (g : Option Given) : strongerGiven g g = g := by
  cases g <;> simp [strongerGiven]

/-- Nothing is stronger than the command line. -/
theorem strongerGiven_commandLine (root : Option Given) (values : List String) :
    strongerGiven root (some ⟨.commandLine, values⟩) = some ⟨.commandLine, values⟩ := by
  cases root with
  | none => rfl
  | some r =>
    obtain ⟨source, values'⟩ := r
    cases source <;> rfl

theorem strongerGiven_of_source_ne {sub : Option Given}
    (h : ∀ g ∈ sub, g.source ≠ .commandLine) (values : List String) :
    strongerGiven (some ⟨.commandLine, values⟩) sub = some ⟨.commandLine, values⟩ := by
  cases sub with
  | none => rfl
  | some s =>
    obtain ⟨source, values'⟩ := s
    cases source with
    | default => rfl
    | environment => rfl
    | commandLine => exact absurd rfl (h _ rfl)

end CommandTree

/-- The stronger of what two levels give an argument is what the words of both give it, if they
give it one value at most. -/
theorem Argument.Settled.stronger {root sub both : Option Given}
    (hroot : a.Settled env rootRaws root) (hsub : a.Settled env subRaws sub)
    (hboth : a.Settled env (rootRaws ++ subRaws) both) (hone : (rootRaws ++ subRaws).length ≤ 1) :
    CommandTree.strongerGiven root sub = both := by
  cases rootRaws with
  | nil =>
    obtain rfl := hsub.unique hboth
    cases subRaws with
    | nil =>
      obtain rfl := hroot.unique hsub
      exact CommandTree.strongerGiven_self root
    | cons raw raws =>
      obtain ⟨values, rfl⟩ := hsub.of_ne_nil (List.cons_ne_nil raw raws)
      exact CommandTree.strongerGiven_commandLine root values
  | cons raw raws =>
    have hnil : raws ++ subRaws = [] := by simpa using hone
    obtain ⟨rfl, rfl⟩ := List.append_eq_nil_iff.1 hnil
    obtain rfl := hroot.unique hboth
    obtain ⟨values, rfl⟩ := hroot.of_ne_nil (List.cons_ne_nil raw [])
    exact CommandTree.strongerGiven_of_source_ne hsub.source_ne values

namespace CommandTree

theorem get?_foldl_mergeGlobals (root sub merged : Dict Given) (arguments : List Argument)
    (name : String) :
    (arguments.foldl (fun merged a =>
      match strongerGiven (root.get? a.name) (sub.get? a.name) with
      | some g => merged.insert a.name g
      | none => merged) merged).get? name =
      if name ∈ arguments.map (·.name) then
        (strongerGiven (root.get? name) (sub.get? name)).or (merged.get? name)
      else merged.get? name := by
  induction arguments generalizing merged with
  | nil => rfl
  | cons a arguments ih =>
    rw [List.foldl_cons, ih]
    cases hstronger : strongerGiven (root.get? a.name) (sub.get? a.name) with
    | none => grind
    | some g => grind [Dict.get?_insert]

theorem get?_mergeGlobals {t : CommandTree} (ha : a ∈ t.arguments) (root sub : Dict Given) :
    (t.mergeGlobals root sub).get? a.name =
      strongerGiven (root.get? a.name) (sub.get? a.name) := by
  refine (get?_foldl_mergeGlobals root sub root t.arguments a.name).trans ?_
  rw [if_pos (List.mem_map_of_mem ha)]
  cases root.get? a.name with
  | none => exact Option.or_none
  | some r =>
    cases sub.get? a.name with
    | none => rfl
    | some s =>
      unfold strongerGiven
      dsimp only
      split <;> rfl

/-- Without subcommands the whole line is read at the program's level. -/
theorem parse_of_noSubcommands {t : CommandTree} (hsub : t.subcommands = [])
    (h : t.parse env args = .ok invocation) :
    ∃ r, args.tail.foldlM (Reading.read t.rootLevel) Reading.start = .ok r ∧
      r.close env t.arguments = .ok invocation.globals := by
  unfold parse at h
  obtain ⟨⟨reading, found⟩, hscan, h⟩ := Except.bind_eq_ok.1 h
  cases found with
  | none =>
    obtain ⟨closed, hclose, h⟩ := Except.bind_eq_ok.1 h
    obtain ⟨_, -, h⟩ := Except.bind_eq_ok.1 h
    obtain ⟨_, -, h⟩ := Except.bind_eq_ok.1 h
    cases h
    exact ⟨reading, Level.foldlM_read_of_scan hsub hscan, hclose⟩
  | some found =>
    obtain ⟨call, rest⟩ := found
    obtain ⟨-, word, -, -, -, hcall⟩ := Level.scan_called hscan
    rw [Level.call?_eq_none hsub] at hcall
    cases hcall

end CommandTree

/-! ## The first reading -/

theorem tail_globalWords (args : List String) :
    (globalWords args).tail = globalWordsAfter args.tail := by
  cases args <;> rfl

theorem Config.nodup_globalArguments (config : Config) :
    (config.globalArguments.map (·.name)).Nodup := by
  have hnames : config.globalArguments.map (·.name) = globalFlags := rfl
  rw [hnames]
  decide

/-- What the first reading finds is settled by the words that are picked out. -/
theorem Config.parseGlobals_eq_ok {g : Globals}
    (h : config.parseGlobals processEnv args = .ok g) :
    ∃ found, g = Globals.ofGiven found ∧ ∀ a ∈ config.globalArguments,
      a.Settled processEnv (config.bootstrapLevel.rawValues a (globalWordsAfter args.tail))
        (found.get? a.name) ∧
      (config.bootstrapLevel.rawValues a (globalWordsAfter args.tail)).length ≤ 1 := by
  unfold parseGlobals at h
  obtain ⟨invocation, hparse, h⟩ := Except.bind_eq_ok.1 h
  cases h
  obtain ⟨r, hread, hclose⟩ := CommandTree.parse_of_noSubcommands rfl hparse
  rw [tail_globalWords] at hread
  refine ⟨invocation.globals, rfl, fun a ha => ⟨?_, ?_⟩⟩
  · exact Level.settled config.nodup_globalArguments ha hread hclose
  · obtain ⟨settled, hsettle, -⟩ := Except.bind_eq_ok.1 hclose
    have hrepeat : a.isRepeatable = false := by
      rw [Argument.isRepeatable, (of_mem_globalArguments ha).2.2.2]
      rfl
    exact length_rawValues_le_one hrepeat (Level.read_occurrences hread hsettle)

/-! ## The second reading -/

/-- The name of the default command does not concern global arguments. -/
theorem globalWordsAfter_withDefaultCommand
    (hnames : ∀ c ∈ set.commands, ∀ name ∈ c.names, name.toList.head? ≠ some '-')
    (args : List String) :
    globalWordsAfter (withDefaultCommand set args).tail = globalWordsAfter args.tail := by
  unfold withDefaultCommand
  cases hdefault : set.default? with
  | none => rfl
  | some d =>
    have hhead := hnames d (List.mem_of_find?_eq_some hdefault) d.name List.mem_cons_self
    dsimp only
    split
    · rfl
    · split
      · rfl
      · cases args with
        | nil => rfl
        | cons program rest =>
          exact globalWordsAfter_plain (Word.ofString_eq_plain_iff.2 (.inr hhead))

/-- What the whole line gives a global argument is the stronger of what the two levels give it, and
the words that are picked out are those of both levels. -/
theorem Config.settled_of_parse {baseUrl : String}
    (hset : (compile doc baseUrl env).run.value = .ok set)
    (hnames : ∀ c ∈ set.commands, ∀ name ∈ c.names, name.toList.head? ≠ some '-')
    (hparse : (config.commandTree set).parse processEnv args = .ok invocation)
    (ha : a ∈ config.globalArguments) :
    ∃ rootRaws subRaws root sub,
      config.bootstrapLevel.rawValues a (globalWordsAfter args.tail) = rootRaws ++ subRaws ∧
      a.Settled processEnv rootRaws root ∧ a.Settled processEnv subRaws sub ∧
      invocation.globals.get? a.name = CommandTree.strongerGiven root sub := by
  obtain ⟨before, word, words, s, htail, hdivides⟩ := CommandTree.divides_of_parse rfl hparse
  obtain ⟨c, rfl, hfind⟩ := Config.find?_of_call? hdivides.calls
  obtain ⟨hc, hword⟩ := CommandSet.find?_eq_some hfind
  obtain ⟨reading, root, sub, hread, hclose, hsub, rfl⟩ := hdivides.reads
  obtain ⟨r, hread', hclose'⟩ := CommandTree.parseSub_eq_ok hsub
  have hplain : Word.ofString word = .plain :=
    Word.ofString_eq_plain_iff.2 (.inr (hnames c hc word hword))
  have haccepts : (config.commandLevel set c).Accepts r.escaped words :=
    Level.accepts_of_read hread' (Reading.awaited_of_close hclose')
  have hsubNames := nodup_commandLevel (wellKept_of_compile hset hc) config set
  refine ⟨_, _, root.get? a.name, sub.get? a.name, ?_,
    Level.settled config.nodup_globalArguments ha hread hclose,
    Level.settled hsubNames (List.mem_append_right _ ha) hread' hclose', ?_⟩
  · rw [htail]
    exact rawValues_globalWordsAfter (config.rootLevel_offersGlobals set)
      (commandLevel_offersGlobals hset hc config) hdivides.accepts hplain haccepts
      (of_mem_globalArguments ha).1
  · exact CommandTree.get?_mergeGlobals ha root sub

theorem Globals.ofGiven_congr {given given' : Dict Given}
    (h : ∀ name ∈ globalFlags, given.get? name = given'.get? name) :
    Globals.ofGiven given = Globals.ofGiven given' := by
  simp only [globalFlags, List.forall_mem_cons] at h
  unfold Globals.ofGiven firstValue
  rw [h.1, h.2.1, h.2.2.1]

/-! ## The requests -/

/-- A request goes to a URL under the base URL. -/
def Request.GoesTo (baseUrl : String) (r : Request) : Prop :=
  ∃ path url, Url.parse (endpoint baseUrl path) = .ok url ∧
    ∃ pairs, r.url = url.addPairs pairs

namespace Client

/-- Whatever is due at a stage goes to the base URL that the invocation has found. -/
theorem Due.goesTo {client : Client} {g : Globals} {s : Session} {r : Request} :
    ∀ stage, client.Due args g s stage r → r.GoesTo g.baseUrl
  | .health, h => ⟨g.healthPath, r.url, h.2, [], rfl⟩
  | .document, h => ⟨g.specPath, r.url, h.2.2, [], rfl⟩
  | .command, h => by
    obtain ⟨set, c, bound, ⟨response, text, doc, -, -, -, -, hset⟩, -, span, hbuild⟩ := h
    obtain ⟨hurl, -⟩ := Dispatcher.buildRequest_eq_ok hbuild
    obtain ⟨path, url, -, hparse, hr⟩ := Dispatcher.requestUrl_eq_ok hurl
    rw [baseUrl_of_compile hset] at hparse
    exact ⟨path, url, hparse, _, hr⟩

theorem run_goesTo (client : Client) {g : Globals}
    (h : client.config.parseGlobals client.processEnv args = .ok g) (s : Session) :
    ∃ requests, (client.run args s).2.sent = s.sent ++ requests ∧
      ∀ r ∈ requests, r.GoesTo g.baseUrl := by
  obtain ⟨requests, hfollows, -⟩ := client.run_follows h s
  refine ⟨requests, hfollows.exchange.sent, fun r hr => ?_⟩
  obtain ⟨hlength, hdue⟩ := List.forall₂_iff_get.1 hfollows.isDue
  obtain ⟨⟨i, hi⟩, rfl⟩ := List.mem_iff_get.1 hr
  have hstage := hdue i (by omega) hi
  simp only [List.get_eq_getElem, List.getElem_take, List.getElem_map] at hstage
  exact Due.goesTo _ hstage

/-- Where no name of a command begins with a hyphen and both readings accept a line, they find the
same global arguments, and every request of the invocation goes to the base URL that the second one
finds. -/
theorem globals_agree (client : Client) (hset : (compile doc baseUrl env).run.value = .ok set)
    (hnames : ∀ c ∈ set.commands, ∀ name ∈ c.names, name.toList.head? ≠ some '-')
    (hglobals : client.config.parseGlobals client.processEnv args = .ok g)
    (hparse : (client.config.commandTree set).parse client.processEnv
      (withDefaultCommand set args) = .ok invocation) :
    Globals.ofGiven invocation.globals = g ∧
      ∀ s : Session, ∃ requests, (client.run args s).2.sent = s.sent ++ requests ∧
        ∀ r ∈ requests, r.GoesTo (Globals.ofGiven invocation.globals).baseUrl := by
  obtain ⟨found, hg, hfound⟩ := Config.parseGlobals_eq_ok hglobals
  have hsame : Globals.ofGiven invocation.globals = g := by
    rw [hg]
    refine Globals.ofGiven_congr fun name hname => ?_
    obtain ⟨a, ha, rfl, -⟩ := client.config.exists_globalArgument hname
    obtain ⟨hboth, hone⟩ := hfound a ha
    obtain ⟨rootRaws, subRaws, root, sub, hraws, hroot, hsub, hget⟩ :=
      Config.settled_of_parse hset hnames hparse ha
    rw [globalWordsAfter_withDefaultCommand hnames] at hraws
    rw [hraws] at hboth hone
    rw [hget]
    exact hroot.stronger hsub hboth hone
  rw [hsame]
  exact ⟨rfl, client.run_goesTo hglobals⟩

/-- The client of the sample where the environment has a value for every variable. -/
def inEnvironment : Client := { DefaultCommand.client with processEnv := fun _ => some "/env" }

/-- What a line gives that says only where the API is. -/
def fromEnvironment : Dict Given :=
  Dict.ofList [("base-url", ⟨.commandLine, ["http://x"]⟩),
    ("health-path", ⟨.environment, ["/env"]⟩), ("swagger-path", ⟨.environment, ["/env"]⟩)]

open DefaultCommand in
/-- The base URL stands after the name of the default command, which is put in; the environment
says the rest. -/
theorem globals_agree_default :
    (compile document "http://h" inEnvironment.env).run.value = .ok commands ∧
      (∀ c ∈ commands.commands, ∀ name ∈ c.names, name.toList.head? ≠ some '-') ∧
      inEnvironment.config.parseGlobals inEnvironment.processEnv
          ["app", "--base-url", "http://x", "--topic=t"] =
        .ok ⟨"http://x", "/env", "/env"⟩ ∧
      (inEnvironment.config.commandTree commands).parse inEnvironment.processEnv
          (withDefaultCommand commands ["app", "--base-url", "http://x", "--topic=t"]) =
        .ok ⟨fromEnvironment, some ("search", fromEnvironment.insert "topic" ⟨.commandLine, ["t"]⟩)⟩ ∧
      ∀ s : Session, ∃ requests,
        (inEnvironment.run ["app", "--base-url", "http://x", "--topic=t"] s).2.sent =
          s.sent ++ requests ∧
        ∀ r ∈ requests, r.GoesTo "http://x" := by
  have hset : (compile document "http://h" inEnvironment.env).run.value = .ok commands := by rfl
  have hnames : ∀ c ∈ commands.commands, ∀ name ∈ c.names, name.toList.head? ≠ some '-' := by
    decide
  have hglobals : inEnvironment.config.parseGlobals inEnvironment.processEnv
      ["app", "--base-url", "http://x", "--topic=t"] = .ok ⟨"http://x", "/env", "/env"⟩ := by rfl
  have hparse : (inEnvironment.config.commandTree commands).parse inEnvironment.processEnv
      (withDefaultCommand commands ["app", "--base-url", "http://x", "--topic=t"]) =
    .ok ⟨fromEnvironment,
      some ("search", fromEnvironment.insert "topic" ⟨.commandLine, ["t"]⟩)⟩ := by rfl
  obtain ⟨hsame, hrequests⟩ := inEnvironment.globals_agree hset hnames hglobals hparse
  rw [hsame] at hrequests
  exact ⟨hset, hnames, hglobals, hparse, hrequests⟩

end Client
end ApiCli

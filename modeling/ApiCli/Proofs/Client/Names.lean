import ApiCli.Proofs.Client.DefaultCommand
import ApiCli.Proofs.Client.Protocol
import ApiCli.Proofs.Document.Resolved
import ApiCli.Proofs.Text.Utf8

/-!
# Names of commands

The names and aliases of the commands of a document are all different, so that a name stands for one
command.

* `NamesDisjoint.filter_isNamed`: there is exactly one command with a given name.
* `CommandTree.CallsBy`: the word that calls a subcommand in a line.
* `call_of_callsBy`: the word that calls decides about the command, and the name that is reported for
  it leads back to the command.

**Identity** (`Client.name_identifies`): a client that accepts a line runs the command that the word
names.
-/

namespace ApiCli

variable {doc : Document} {env processEnv : Environment} {config : Config} {set : CommandSet}
  {c : Command} {name baseUrl : String} {line : List String} {invocation : Invocation}

/-! ## Sets of commands -/

theorem Command.isNamed_iff : c.isNamed name = true ↔ name ∈ c.names := List.contains_iff_mem

/-- A name of a command is a name of no other one. -/
theorem NamesDisjoint.filter_isNamed {commands : List Command} (h : NamesDisjoint commands)
    (hc : c ∈ commands) (hname : name ∈ c.names) : commands.filter (·.isNamed name) = [c] := by
  induction commands with
  | nil => cases hc
  | cons d rest ih =>
    obtain ⟨hd, hrest⟩ := List.pairwise_cons.1 h
    rw [List.filter_cons]
    rcases List.mem_cons.1 hc with rfl | hc
    · have hnone : rest.filter (·.isNamed name) = [] := by
        rw [List.filter_eq_nil_iff]
        intro e he hnamed
        exact hd e he name hname (Command.isNamed_iff.1 hnamed)
      rw [if_pos (Command.isNamed_iff.2 hname), hnone]
    · have hother : ¬d.isNamed name = true := by
        intro hnamed
        exact hd c hc name (Command.isNamed_iff.1 hnamed) hname
      rw [if_neg hother, ih hrest hc]

/-! ## The word that calls -/

/-- In a line, the word that calls a subcommand. -/
def CommandTree.CallsBy (t : CommandTree) (line : List String) (word : String) : Prop :=
  ∃ before words reading s, line.tail = before ++ word :: words ∧
    t.rootLevel.scan Reading.start line.tail = .ok (reading, some (.subcommand s, words))

/-- The word that calls decides about the command. -/
theorem call_of_callsBy (hset : (compile doc baseUrl env).run.value = .ok set)
    (hc : c ∈ set.commands) (hname : name ∈ c.names)
    (hparse : (config.commandTree set).parse processEnv line = .ok invocation)
    (hcalls : (config.commandTree set).CallsBy line name) :
    ∃ given, invocation.call = some (c.name, given) := by
  obtain ⟨globals, call⟩ := invocation
  obtain ⟨called, given, rfl⟩ := CommandTree.exists_call rfl hparse
  obtain ⟨reading, s, words, root, hscan, -, rfl, -, -, -⟩ := CommandTree.parse_called hparse
  obtain ⟨before, words', reading', s', htail, hscan'⟩ := hcalls
  rw [hscan] at hscan'
  cases hscan'
  -- the words after the call are the same, so it is the same word that calls
  obtain ⟨before', word, htail', -, -, hcall⟩ := Level.scan_called hscan
  obtain ⟨-, heq⟩ := List.append_inj' (htail'.symm.trans htail) rfl
  obtain rfl : word = name := (List.cons.inj heq).1
  obtain ⟨d, rfl, hfind⟩ := Config.find?_of_call? hcall
  obtain rfl : c = d :=
    Option.some.inj (((namesDisjoint_of_compile hset).find?_eq hc hname).symm.trans hfind)
  exact ⟨given, rfl⟩

namespace Client

theorem parseCall_of_parse (client : Client) {args : List String} {given : Dict Given}
    (hparse : (client.config.commandTree set).parse client.processEnv (withDefaultCommand set args) =
      .ok invocation) (hcall : invocation.call = some (c.name, given))
    (hfind : set.find? c.name = some c) :
    client.parseCall set args = .ok (c, boundValues c given) := by
  obtain ⟨globals, call⟩ := invocation
  obtain rfl : call = some (c.name, given) := hcall
  unfold parseCall
  simp only [hparse, hfind]
  rfl

/-- What is left of an invocation once the command is known. -/
theorem run_of_parseCall (client : Client) {args : List String} {globals : Globals}
    {bound : Dict Bound} {s s₁ s₂ : Session}
    (hglobals : client.config.parseGlobals client.processEnv args = .ok globals)
    (hhealth : client.checkHealth globals s = (.ok (), s₁))
    (hfetch : client.fetchCommands globals s₁ = (.ok set, s₂))
    (hcall : client.parseCall set args = .ok (c, bound)) :
    client.run args s = (ExceptT.adapt RunError.dispatch
      ((client.dispatcher args).execute c set.baseUrl bound) : Action RunError Unit) s₂ := by
  rw [client.run_eq hglobals, Action.bind_of_ok hhealth, runCommand, Action.bind_of_ok hfetch,
    hcall]

/-- The next reply gives the commands, if it can be asked for. -/
theorem fetchCommands_of_fetched (client : Client) {globals : Globals} {s : Session} {url : Url}
    (hopen : s.cancelled = false)
    (hurl : Url.parse (endpoint globals.baseUrl globals.specPath) = .ok url)
    (hfetched : client.Fetched globals (s.reply 0) set) :
    ∃ s', client.fetchCommands globals s = (.ok set, s') := by
  obtain ⟨requests, hattempt, -, hset⟩ := client.fetchCommands_attempt globals s
  have hsent : requests ≠ [] := by
    cases hattempt with
    | unsent hnot _ =>
      rcases hnot with hcancelled | hnone
      · rw [hopen] at hcancelled
        cases hcancelled
      · exact absurd ⟨⟨.get, url, Headers.standard ""⟩, rfl, hurl⟩ hnone
    | sent => exact List.cons_ne_nil _ _
  have hvalue := (hset set).2 ⟨hsent, hfetched⟩
  rcases hresult : client.fetchCommands globals s with ⟨outcome, s'⟩
  rw [hresult] at hvalue
  obtain rfl : outcome = .ok set := hvalue
  exact ⟨s', rfl⟩

/-- A name identifies a command: it is a name of no other command, it is found by it, and when a line
is accepted in which the name calls, the command is run. -/
theorem name_identifies (client : Client) (hset : (compile doc baseUrl env).run.value = .ok set)
    (hc : c ∈ set.commands) (hname : name ∈ c.names) :
    set.commands.filter (·.isNamed name) = [c] ∧ set.find? name = some c ∧
      ∀ line invocation,
        (client.config.commandTree set).parse client.processEnv line = .ok invocation →
        (client.config.commandTree set).CallsBy line name →
        ∃ given, invocation.call = some (c.name, given) ∧
          ∀ args globals s s₁ s₂, withDefaultCommand set args = line →
            client.config.parseGlobals client.processEnv args = .ok globals →
            client.checkHealth globals s = (.ok (), s₁) →
            client.fetchCommands globals s₁ = (.ok set, s₂) →
            client.run args s = (ExceptT.adapt RunError.dispatch
              ((client.dispatcher args).execute c set.baseUrl (boundValues c given)) :
                Action RunError Unit) s₂ := by
  have hdisjoint := namesDisjoint_of_compile hset
  refine ⟨hdisjoint.filter_isNamed hc hname, hdisjoint.find?_eq hc hname, ?_⟩
  intro line invocation hparse hcalls
  obtain ⟨given, hcall⟩ := call_of_callsBy hset hc hname hparse hcalls
  refine ⟨given, hcall, ?_⟩
  rintro args globals s s₁ s₂ rfl hglobals hhealth hfetch
  have hfind : set.find? c.name = some c := hdisjoint.find?_eq hc List.mem_cons_self
  exact client.run_of_parseCall hglobals hhealth hfetch
    (client.parseCall_of_parse hparse hcall hfind)

end Client

/-! ## A sample

The remote answers with a document whose command `pods` has the alias `p`. -/

namespace DefaultCommand

open Json

/-- The document as it is written. -/
def documentValue : Json :=
  let pods := object [("x-swagger-cmd", string "pods"), ("x-swagger-cmd-alias", array [string "p"])]
  let topic := object [("in", string "query"), ("name", string "topic"), ("type", string "string")]
  let search := object [("parameters", array [topic]), ("x-swagger-cmd", string "search"),
    ("x-swagger-cmd-default", bool true)]
  let paths := [("/pods", object [("get", pods)]), ("/search", object [("get", search)])]
  object [("paths", object paths)]

/-- A session in which the remote answers with the document. -/
def session : Session :=
  { Session.start with
    replies := [⟨false, .ok ⟨200, ⟨Utf8.encode documentValue.write, none⟩⟩⟩] }

def globals : Globals := ⟨"http://h", "/swagger.json", ""⟩

theorem parse?_documentValue : parse? documentValue.text.toList = some documentValue := by
  have hregular : documentValue.Regular := by
    refine ⟨?_, ?_, ?_⟩
    · simp only [documentValue, Json.Canonical, CanonicalMembers, CanonicalItems, KeysIncrease]
      decide
    · simp [documentValue, numbers, numbersMembers, numbersItems]
    · simp [documentValue, depth, depthMembers, depthItems, depthLimit]
  have hkeys : ∀ key ∈ ["paths", "/pods", "/search", "get", "x-swagger-cmd", "x-swagger-cmd-alias",
      "parameters", "x-swagger-cmd-default", "in", "name", "type"], numberKey ≠ key := by decide
  have hliteral : documentValue.Literal := by
    simp only [List.forall_mem_cons] at hkeys
    simp [documentValue, Literal, Everywhere, EverywhereMembers, EverywhereItems, NotNumber, hkeys]
  rw [Json.toList_text]
  exact hregular.parse?_write_iff.2 hliteral

theorem fetched_documentValue : client.Fetched globals (session.reply 0) commands := by
  refine ⟨_, documentValue.text, document, rfl, by decide, ?_, ?_, by rfl⟩
  · rw [Body.text, Body.bytes, Except.map, Utf8.decodeLossy_encode, Json.text]
  · rw [Document.load_of_parse? parse?_documentValue]
    rfl

theorem exists_url : ∃ url, Url.parse (endpoint globals.baseUrl globals.specPath) = .ok url := by
  have hok : (Url.parse (endpoint globals.baseUrl globals.specPath)).toOption.isSome := by
    decide +kernel
  cases hurl : Url.parse (endpoint globals.baseUrl globals.specPath) with
  | ok url => exact ⟨url, rfl⟩
  | error e => simp [hurl, Except.toOption] at hok

end DefaultCommand

open DefaultCommand in
/-- The alias `p` stands for the command `pods`, and a line with it runs that command. -/
theorem Client.name_identifies_alias :
    (compile document "http://h" client.env).run.value = .ok commands ∧ pods ∈ commands.commands ∧
      "p" ∈ pods.names ∧ commands.find? "p" = some pods ∧
      (client.config.commandTree commands).CallsBy ["app", "p"] "p" ∧
      ∃ given s, client.fetchCommands globals session = (.ok commands, s) ∧
        client.run ["app", "p"] session = (ExceptT.adapt RunError.dispatch
          ((client.dispatcher ["app", "p"]).execute pods "http://h" (boundValues pods given)) :
            Action RunError Unit) s := by
  have hset : (compile document "http://h" client.env).run.value = .ok commands := by rfl
  have hpods : pods ∈ commands.commands := List.mem_cons_self
  have halias : "p" ∈ pods.names := by decide
  have hparse : (client.config.commandTree commands).parse client.processEnv ["app", "p"] =
      .ok ⟨given ⟨.default, ["http://h"]⟩ [], some ("pods", given ⟨.default, ["http://h"]⟩ [])⟩ := by
    rfl
  have hcalls : (client.config.commandTree commands).CallsBy ["app", "p"] "p" :=
    ⟨[], [], .start, pods.subcommand, rfl, rfl⟩
  have hglobals : client.config.parseGlobals client.processEnv ["app", "p"] = .ok globals := by rfl
  obtain ⟨url, hurl⟩ := exists_url
  obtain ⟨s, hfetch⟩ := client.fetchCommands_of_fetched rfl hurl fetched_documentValue
  obtain ⟨-, hfind, hidentifies⟩ := client.name_identifies hset hpods halias
  obtain ⟨given, -, hrun⟩ := hidentifies _ _ hparse hcalls
  exact ⟨hset, hpods, halias, hfind, hcalls, given, s, hfetch,
    hrun _ globals session session s rfl hglobals (client.checkHealth_of_empty rfl session) hfetch⟩

end ApiCli

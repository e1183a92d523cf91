import ApiCli.Proofs.Arguments.Given
import ApiCli.Proofs.Arguments.Spelling

/-!
# Words that assign values

Words that give an argument its value after an equals sign are accepted, whatever the value is.

* `foldlM_read_assignments`: such words are read as the occurrences they are made of.
* `exists_giveAll`: occurrences are accepted if their values are, and if an argument that takes one
  value occurs once.
* `exists_close_of_fillable`: a level is closed if what is not given can be filled in, and
  `close_error` says how closing fails.

`Level.exists_given`: a level at which such words stand is read to its end, and its arguments are
settled by the occurrences.
-/

namespace ApiCli

variable {l : Level} {a : Argument} {given : Dict Given} {os : List Occurrence}

/-- The word that gives an argument a value. -/
def Occurrence.word (o : Occurrence) : String := "--" ++ o.1.name ++ "=" ++ o.2

/-! ## Reading -/

/-- Two hyphens with something behind them make the word of a long name. -/
theorem Word.ofString_long {word : String} {rest : List Char} (h : word.toList = '-' :: '-' :: rest)
    (hrest : rest ≠ []) :
    Word.ofString word = .long (String.ofList (Text.breakAt '=' rest).1)
      ((Text.breakAt '=' rest).2.map String.ofList) := by
  obtain ⟨c, rest, rfl⟩ := List.exists_cons_of_ne_nil hrest
  rw [Word.ofString, h]
  rfl

/-- A name without an equals sign ends at the first one, whatever the value is. -/
theorem Word.ofString_assignment {name : String} (h : '=' ∉ name.toList) (value : String) :
    Word.ofString ("--" ++ name ++ "=" ++ value) = .long name (some value) := by
  have htext : ("--" ++ name ++ "=" ++ value).toList =
      '-' :: '-' :: (name.toList ++ '=' :: value.toList) := by
    simp
  rw [Word.ofString_long htext (by simp), Text.breakAt_append h]
  simp

theorem Occurrence.ofString_word (o : Occurrence) (h : '=' ∉ o.1.name.toList) :
    Word.ofString o.word = .long o.1.name (some o.2) :=
  Word.ofString_assignment h o.2

/-- Where names are distinct, every argument is found by its name. -/
theorem Level.argument?_of_mem (hnames : (l.arguments.map (·.name)).Nodup) (ha : a ∈ l.arguments) :
    l.argument? a.name = some a := by
  cases hfound : l.argument? a.name with
  | none => exact absurd (decide_eq_true rfl) (List.find?_eq_none.1 hfound a ha)
  | some b =>
    have hname : b.name = a.name := by simpa using List.find?_some hfound
    rw [List.inj_on_of_nodup_map hnames (mem_of_argument? hfound) ha hname]

/-- Occurrences whose words a level knows by the names of their arguments. -/
def Level.Assigns (l : Level) (os : List Occurrence) : Prop :=
  ∀ o ∈ os, '=' ∉ o.1.name.toList ∧ l.argument? o.1.name = some o.1

theorem Level.occurrences_assignments (h : l.Assigns os) :
    l.occurrences none (os.map Occurrence.word) = os := by
  induction os with
  | nil => rfl
  | cons o os ih =>
    obtain ⟨⟨hname, hargument⟩, hos⟩ := List.forall_mem_cons.1 h
    have hgives : l.wordGives (.ofString o.word) = ([o], none) := by
      simp only [o.ofString_word hname, wordGives, hargument]
    rw [List.map_cons, occurrences, hgives, ih hos]
    rfl

theorem giveAll_cons (given : Dict Given) (o : Occurrence) (os : List Occurrence) :
    giveAll given (o :: os) =
      addGiven given o.1 .commandLine [o.2] >>= fun given => giveAll given os :=
  List.foldlM_cons

namespace Reading

/-- A reading with nothing open. -/
def giving (given : Dict Given) : Reading := ⟨given, .nothing, false⟩

theorem read_assignment {o : Occurrence} (hname : '=' ∉ o.1.name.toList)
    (hargument : l.argument? o.1.name = some o.1) (given : Dict Given) :
    (giving given).read l o.word = (addGiven given o.1 .commandLine [o.2]).map giving := by
  unfold read
  rw [o.ofString_word hname, giving, if_neg Bool.false_ne_true]
  simp only [long, hargument, give, settle, Except.ok_bind]
  cases addGiven given o.1 .commandLine [o.2] <;> rfl

/-- Words that assign values are read as the occurrences they are made of. -/
theorem foldlM_read_assignments (h : l.Assigns os) (given : Dict Given) :
    (os.map Occurrence.word).foldlM (Reading.read l) (giving given) =
      (giveAll given os).map giving := by
  induction os generalizing given with
  | nil => rfl
  | cons o os ih =>
    obtain ⟨⟨hname, hargument⟩, hos⟩ := List.forall_mem_cons.1 h
    rw [List.map_cons, List.foldlM_cons, read_assignment hname hargument, giveAll_cons]
    cases addGiven given o.1 .commandLine [o.2] with
    | error e => rfl
    | ok given₁ => exact ih hos given₁

end Reading

/-- Without subcommands, words that are read one after the other are all there is. -/
theorem Level.scan_of_foldlM_read {words : List String} {r r' : Reading} (hsub : l.subcommands = [])
    (h : words.foldlM (Reading.read l) r = .ok r') : l.scan r words = .ok (r', none) := by
  induction words generalizing r with
  | nil =>
    cases h
    rfl
  | cons word rest ih =>
    obtain ⟨r₁, hread, hrest⟩ := Except.bind_eq_ok.1 h
    rw [scan, call?_eq_none hsub, ite_self, hread]
    exact ih hrest

/-! ## Giving -/

/-- An argument that can be given is given exactly if its raw values are of its type. -/
theorem addGiven_of_new {source : ValueSource} {raws : List String}
    (hnew : a.isRepeatable = false → given.get? a.name = none) :
    addGiven given a source raws =
      match a.type.readAll? raws with
      | none => .error .invalidValue
      | some values => .ok (given.insert a.name ⟨source, heldValues given a.name ++ values⟩) := by
  have hnot : ¬(!a.isRepeatable && given.contains a.name) = true := by
    cases hrepeat : a.isRepeatable with
    | true => simp
    | false => simp [Dict.contains, hnew hrepeat]
  unfold addGiven
  rw [if_neg hnot]
  rfl

theorem addGiven_of_readAll? {source : ValueSource} {raws values : List String}
    (h : a.type.readAll? raws = some values)
    (hnew : a.isRepeatable = false → given.get? a.name = none) :
    addGiven given a source raws =
      .ok (given.insert a.name ⟨source, heldValues given a.name ++ values⟩) := by
  rw [addGiven_of_new hnew, h]

/-- Occurrences are accepted if their values are, and if an argument that takes one value occurs
once and was not given before. -/
theorem exists_giveAll (given : Dict Given)
    (hread : ∀ o ∈ os, (o.1.type.readAll? [o.2]).isSome)
    (honce : os.Pairwise fun o o' => o'.1.isRepeatable = false → o.1.name ≠ o'.1.name)
    (hnew : ∀ o ∈ os, o.1.isRepeatable = false → given.get? o.1.name = none) :
    ∃ given', giveAll given os = .ok given' := by
  induction os generalizing given with
  | nil => exact ⟨given, rfl⟩
  | cons o os ih =>
    obtain ⟨hreadable, hread⟩ := List.forall_mem_cons.1 hread
    obtain ⟨hother, honce⟩ := List.pairwise_cons.1 honce
    obtain ⟨hnone, hnew⟩ := List.forall_mem_cons.1 hnew
    obtain ⟨values, hvalues⟩ := Option.isSome_iff_exists.1 hreadable
    rw [giveAll_cons, addGiven_of_readAll? hvalues hnone, Except.ok_bind]
    refine ih _ hread honce fun o' ho' hrepeat => ?_
    rw [Dict.get?_insert, if_neg (hother o' ho' hrepeat)]
    exact hnew o' ho' hrepeat

/-! ## Closing -/

/-- Any text is a value of the type of strings. -/
theorem FlagType.readAll?_string (raws : List String) :
    (FlagType.single .string).readAll? raws = some raws := by
  rw [readAll?_single]
  change raws.mapM (fun raw => pure (id raw)) = some raws
  rw [List.mapM_pure, List.map_id]
  rfl

/-- Nothing that is given is taken away, and what is not given may be filled with values of its
type. -/
theorem exists_fill (f : Argument → Option (ValueSource × List String)) {arguments : List Argument}
    (h : ∀ a ∈ arguments, (given.get? a.name).isSome ∨
      ∀ source raws, f a = some (source, raws) → (a.type.readAll? raws).isSome) :
    ∃ given', fill f given arguments = .ok given' ∧
      ∀ name, (given.get? name).isSome → (given'.get? name).isSome := by
  let Kept (given' : Dict Given) : Prop :=
    ∀ name, (given.get? name).isSome → (given'.get? name).isSome
  have hstart : Kept given := fun _ => id
  refine Except.exists_foldlM (P := Kept) (fun given' a hkept ha => ?_) hstart
  split
  · exact ⟨given', rfl, hkept⟩
  · next hnone =>
    split
    · exact ⟨given', rfl, hkept⟩
    · next source raws hf =>
      have hreads := (h a ha).resolve_left fun hgiven => hnone (hkept a.name hgiven)
      obtain ⟨values, hvalues⟩ := Option.isSome_iff_exists.1 (hreads source raws hf)
      have hnew : given'.get? a.name = none := by simpa [Dict.contains] using hnone
      refine ⟨_, addGiven_of_readAll? hvalues fun _ => hnew, fun name hname => ?_⟩
      rw [Dict.get?_insert]
      split
      · rfl
      · exact hkept name hname

/-- What the environment and the defaults have for an argument are values of its type. -/
structure Argument.Fillable (env : Environment) (a : Argument) : Prop where
  environment : ∀ value, a.env.bind env = some value → (a.type.readAll? [value]).isSome
  defaults : (a.type.readAll? a.defaults).isSome

theorem Argument.fillable_of_string (env : Environment) (h : a.type = .single .string) :
    a.Fillable env := by
  constructor
  · intro value _
    rw [h, FlagType.readAll?_string]
    rfl
  · rw [h, FlagType.readAll?_string]
    rfl

/-- A level is closed if what is not given can be filled in. -/
theorem Reading.exists_close_of_fillable (given : Dict Given) (env : Environment)
    {arguments : List Argument}
    (h : ∀ a ∈ arguments, (given.get? a.name).isSome ∨ a.Fillable env) :
    ∃ given', (Reading.giving given).close env arguments = .ok given' := by
  obtain ⟨given₁, henv, hkept⟩ := exists_fill
    (fun a => (a.env.bind env).map fun value => (.environment, [value]))
    fun a ha => (h a ha).imp_right fun hfillable source raws hf => by
      obtain ⟨value, hvalue, heq⟩ := Option.map_eq_some_iff.1 hf
      cases heq
      exact hfillable.environment value hvalue
  obtain ⟨given₂, hdefaults, -⟩ := exists_fill
    (fun a => if a.defaults.isEmpty then none else some (.default, a.defaults))
    fun a ha => (h a ha).imp (hkept a.name) fun hfillable source raws hf => by
      split at hf <;> cases hf
      exact hfillable.defaults
  refine ⟨given₂, ?_⟩
  rw [Reading.close, Reading.settle, Reading.giving]
  dsimp only
  rw [Except.ok_bind, addEnvironment_eq, henv, Except.ok_bind, addDefaults_eq, hdefaults]

/-- A level is closed if what is not given takes any text. -/
theorem Reading.exists_close (given : Dict Given) (env : Environment) {arguments : List Argument}
    (h : ∀ a ∈ arguments, (given.get? a.name).isSome ∨ a.type = .single .string) :
    ∃ given', (Reading.giving given).close env arguments = .ok given' :=
  exists_close_of_fillable given env fun a ha =>
    (h a ha).imp_right (Argument.fillable_of_string env)

/-- Filling in fails only on what is no value of its type. -/
theorem fill_error {f : Argument → Option (ValueSource × List String)} {arguments : List Argument}
    {e : ArgumentError} (h : fill f given arguments = .error e) : e = .invalidValue := by
  induction arguments generalizing given with
  | nil => cases h
  | cons a arguments ih =>
    rw [fill, List.foldlM_cons] at h
    by_cases hcontains : given.contains a.name = true
    · rw [if_pos hcontains] at h
      exact ih h
    · have hnew : given.get? a.name = none := by simpa [Dict.contains] using hcontains
      rw [if_neg hcontains] at h
      cases hf : f a with
      | none =>
        rw [hf] at h
        exact ih h
      | some filled =>
        rw [hf] at h
        dsimp only at h
        rw [addGiven_of_new fun _ => hnew] at h
        split at h
        · exact (Except.error.inj h).symm
        · exact ih h

theorem Reading.close_error {given : Dict Given} {env : Environment} {arguments : List Argument}
    {e : ArgumentError} (h : (Reading.giving given).close env arguments = .error e) :
    e = .invalidValue := by
  rw [close, settle, giving] at h
  dsimp only at h
  rw [Except.ok_bind, addEnvironment_eq] at h
  cases hfill : fill (fun a => (a.env.bind env).map fun value => (.environment, [value])) given
      arguments with
  | error e' =>
    rw [hfill] at h
    obtain rfl := Except.error.inj h
    exact fill_error hfill
  | ok given₁ =>
    rw [hfill, Except.ok_bind, addDefaults_eq] at h
    exact fill_error h

/-! ## A level of assignments -/

section Assignments

variable (hsub : l.subcommands = []) (hnames : (l.arguments.map (·.name)).Nodup)
  (hassigns : l.Assigns os)

include hsub hnames hassigns in
/-- Where all words are assignments, a level is read to its end if their values are accepted and if
an argument that takes one value occurs once. -/
theorem Level.exists_scan (hread : ∀ o ∈ os, (o.1.type.readAll? [o.2]).isSome)
    (honce : os.Pairwise fun o o' => o'.1.isRepeatable = false → o.1.name ≠ o'.1.name) :
    ∃ given, l.scan Reading.start (os.map Occurrence.word) = .ok (.giving given, none) ∧
      ∀ a ∈ l.arguments, ApiCli.rawValues a os ≠ [] → (given.get? a.name).isSome := by
  obtain ⟨given, hgive⟩ := exists_giveAll Dict.empty hread honce fun _ _ _ => rfl
  have hwords : (os.map Occurrence.word).foldlM (Reading.read l) (.giving Dict.empty) =
      .ok (.giving given) := by
    rw [Reading.foldlM_read_assignments hassigns, hgive]
    rfl
  refine ⟨given, scan_of_foldlM_read hsub hwords, fun a ha hraws => ?_⟩
  have hos : ∀ o ∈ os, o.1.name = a.name → o.1 = a := fun o ho hname =>
    List.inj_on_of_nodup_map hnames (mem_of_argument? (hassigns o ho).2) ha hname
  obtain ⟨values, -, hget⟩ := giveAll_get? hos hgive
  rw [hget, if_neg hraws]
  rfl

include hsub hnames hassigns in
/-- An argument is settled by the words that assign to it. -/
theorem Level.settled_of_scan {env : Environment} {reading : Reading}
    {call : Option (Call × List String)}
    (hscan : l.scan Reading.start (os.map Occurrence.word) = .ok (reading, call))
    (hclose : reading.close env l.arguments = .ok given) (ha : a ∈ l.arguments) :
    a.Settled env (ApiCli.rawValues a os) (given.get? a.name) := by
  have hsettled := settled hnames ha (foldlM_read_of_scan hsub hscan) hclose
  rw [rawValues, occurrences_assignments hassigns] at hsettled
  exact hsettled

end Assignments

/-- Where all words are assignments, a level is read to its end if their values are accepted, if an
argument that takes one value occurs once, and if what does not occur takes any text. -/
theorem Level.exists_given (env : Environment) (hsub : l.subcommands = [])
    (hnames : (l.arguments.map (·.name)).Nodup) (hassigns : l.Assigns os)
    (hread : ∀ o ∈ os, (o.1.type.readAll? [o.2]).isSome)
    (honce : os.Pairwise fun o o' => o'.1.isRepeatable = false → o.1.name ≠ o'.1.name)
    (hrest : ∀ a ∈ l.arguments, ApiCli.rawValues a os ≠ [] ∨ a.type = .single .string) :
    ∃ reading given, l.scan Reading.start (os.map Occurrence.word) = .ok (reading, none) ∧
      reading.close env l.arguments = .ok given ∧
      ∀ a ∈ l.arguments, a.Settled env (ApiCli.rawValues a os) (given.get? a.name) := by
  obtain ⟨given₀, hscan, hgiven₀⟩ := Level.exists_scan hsub hnames hassigns hread honce
  obtain ⟨given, hclose⟩ := Reading.exists_close given₀ env fun a ha =>
    (hrest a ha).imp_left (hgiven₀ a ha)
  exact ⟨_, given, hscan, hclose, fun a ha =>
    settled_of_scan hsub hnames hassigns hscan hclose ha⟩

end ApiCli

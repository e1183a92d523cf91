import ApiCli.Client.Config
import ApiCli.Proofs.Arguments.Accepted
import ApiCli.Proofs.Arguments.Assignments
import ApiCli.Proofs.Text.Split

/-!
# Words for global arguments

`globalWordsAfter` picks the words that concern global arguments out of a line whose other arguments
it does not know.

* `GlobalWord.ofString_eq_unrelated_iff`: the words that are picked out name a global argument, in
  one of its two spellings.
* `Level.OffersGlobals` holds of the levels of a client: global arguments come after arguments that
  have other names.
* `Config.wordGives_of_name` and its siblings say what the three kinds of words give at every such
  level.
* `occurrences_globalWordsAfter`: of words that a level accepts, those picked out give the global
  arguments what all of them give, in the same order. The scan takes the next word of a global name
  without looking at it; it stays aligned since an accepted value is no option.
* `rawValues_globalWordsAfter` is that for the two levels of a line.
-/

namespace ApiCli

/-! ## Words by what they say -/

theorem GlobalWord.ofString_eq (word : String) :
    ofString word =
      match Word.ofString word with
      | .long flag value =>
        if flag ∈ globalFlags then if value.isSome then .assignment else .name else .unrelated
      | .escape | .short _ | .plain => .unrelated := by
  unfold ofString Word.ofString
  generalize word.toList = chars
  match chars with
  | [] => rfl
  | [c] => by_cases hc : c = '-' <;> simp [hc]
  | c :: d :: rest =>
    by_cases hc : c = '-'
    · by_cases hd : d = '-'
      · subst hc hd
        cases rest with
        | nil => rfl
        | cons e rest =>
          obtain ⟨flag, value⟩ := Text.breakAt '=' (e :: rest)
          cases value <;> simp
      · simp [hc, hd]
    · simp [hc]

namespace GlobalWord

variable {word : String}

theorem ofString_eq_name_iff :
    ofString word = .name ↔ ∃ flag ∈ globalFlags, Word.ofString word = .long flag none := by
  rw [ofString_eq]
  cases Word.ofString word with
  | escape => simp
  | plain => simp
  | short cluster => simp
  | long flag value =>
    by_cases hflag : flag ∈ globalFlags
    · cases value <;> simp [hflag]
    · simp [hflag]

theorem ofString_eq_assignment_iff :
    ofString word = .assignment ↔
      ∃ flag ∈ globalFlags, ∃ value, Word.ofString word = .long flag (some value) := by
  rw [ofString_eq]
  cases Word.ofString word with
  | escape => simp
  | plain => simp
  | short cluster => simp
  | long flag value =>
    by_cases hflag : flag ∈ globalFlags
    · cases value <;> simp [hflag]
    · simp [hflag]

/-- Two hyphens by themselves name nothing. -/
theorem ne_escape (h : ofString word ≠ .unrelated) : word ≠ "--" := by
  rintro rfl
  exact h rfl

theorem ofString_of_plain (h : Word.ofString word = .plain) : ofString word = .unrelated := by
  rw [ofString_eq, h]

end GlobalWord

/-! ### The two spellings -/

/-- The word is the name of a global argument behind two hyphens, by itself or with a value behind
an equals sign. -/
def NamesGlobal (word : String) : Prop :=
  ∃ flag ∈ globalFlags, word = "--" ++ flag ∨ ∃ value, word = "--" ++ flag ++ "=" ++ value

namespace GlobalWord

variable {word : String}

theorem ofString_eq_name_iff_word :
    ofString word = .name ↔ ∃ flag ∈ globalFlags, word = "--" ++ flag := by
  have hnames : ∀ flag ∈ globalFlags, Word.ofString ("--" ++ flag) = .long flag none := by
    simp only [globalFlags, List.forall_mem_cons]
    exact ⟨rfl, rfl, rfl, List.forall_mem_nil _⟩
  rw [ofString_eq_name_iff]
  constructor
  · rintro ⟨flag, hflag, hword⟩
    exact ⟨flag, hflag, Word.eq_of_ofString_long hword⟩
  · rintro ⟨flag, hflag, rfl⟩
    exact ⟨flag, hflag, hnames flag hflag⟩

theorem ofString_eq_assignment_iff_word :
    ofString word = .assignment ↔
      ∃ flag ∈ globalFlags, ∃ value, word = "--" ++ flag ++ "=" ++ value := by
  have hequals : ∀ flag ∈ globalFlags, '=' ∉ flag.toList := by decide
  rw [ofString_eq_assignment_iff]
  constructor
  · rintro ⟨flag, hflag, value, hword⟩
    exact ⟨flag, hflag, value, Word.eq_of_ofString_assignment hword⟩
  · rintro ⟨flag, hflag, value, rfl⟩
    exact ⟨flag, hflag, value, Word.ofString_assignment (hequals flag hflag) value⟩

theorem ofString_eq_unrelated_iff : ofString word = .unrelated ↔ ¬NamesGlobal word := by
  have hnames : NamesGlobal word ↔ ofString word = .name ∨ ofString word = .assignment := by
    rw [ofString_eq_name_iff_word, ofString_eq_assignment_iff_word, ← exists_or]
    exact exists_congr fun flag => and_or_left
  rw [hnames]
  cases ofString word <;> simp

instance (word : String) : Decidable (NamesGlobal word) :=
  decidable_of_iff (ofString word ≠ .unrelated) (by rw [Ne, ofString_eq_unrelated_iff, not_not])

end GlobalWord

section globalWordsAfter

variable {word value : String} {rest : List String}

@[simp] theorem globalWordsAfter_nil : globalWordsAfter [] = [] := rfl

theorem globalWordsAfter_escape (rest : List String) : globalWordsAfter ("--" :: rest) = [] := by
  cases rest <;> simp [globalWordsAfter]

theorem globalWordsAfter_unrelated (hword : word ≠ "--") (h : GlobalWord.ofString word = .unrelated) :
    globalWordsAfter (word :: rest) = globalWordsAfter rest := by
  cases rest <;> simp [globalWordsAfter, hword, h]

theorem globalWordsAfter_assignment (h : GlobalWord.ofString word = .assignment) :
    globalWordsAfter (word :: rest) = word :: globalWordsAfter rest := by
  have hword := GlobalWord.ne_escape (h.trans_ne (by decide))
  cases rest <;> simp [globalWordsAfter, hword, h]

theorem globalWordsAfter_name (h : GlobalWord.ofString word = .name) :
    globalWordsAfter (word :: value :: rest) = word :: value :: globalWordsAfter rest := by
  have hword := GlobalWord.ne_escape (h.trans_ne (by decide))
  simp [globalWordsAfter, hword, h]

/-- A last word is kept even if it lacks its value. -/
theorem globalWordsAfter_unfinished (h : GlobalWord.ofString word = .name) :
    globalWordsAfter [word] = [word] := by
  have hword := GlobalWord.ne_escape (h.trans_ne (by decide))
  simp [globalWordsAfter, hword, h]

/-- A word without a hyphen in front concerns no global argument. -/
theorem globalWordsAfter_plain (h : Word.ofString word = .plain) :
    globalWordsAfter (word :: rest) = globalWordsAfter rest :=
  globalWordsAfter_unrelated (Word.ne_escape_of_plain h) (GlobalWord.ofString_of_plain h)

end globalWordsAfter

/-! ## Levels that offer the global arguments -/

theorem Config.of_mem_globalArguments {config : Config} {a : Argument}
    (h : a ∈ config.globalArguments) :
    a.isGlobal = true ∧ a.name ∈ globalFlags ∧ a.short = none ∧ a.type = .single .string := by
  simp only [globalArguments, List.mem_cons, List.not_mem_nil, or_false] at h
  rcases h with rfl | rfl | rfl
  · exact ⟨rfl, .head _, rfl, rfl⟩
  · exact ⟨rfl, .tail _ (.head _), rfl, rfl⟩
  · exact ⟨rfl, .tail _ (.tail _ (.head _)), rfl, rfl⟩

theorem Config.exists_globalArgument (config : Config) {name : String} (h : name ∈ globalFlags) :
    ∃ a ∈ config.globalArguments, a.name = name ∧
      config.globalArguments.find? (fun a => a.name = name) = some a := by
  simp only [globalFlags, List.mem_cons, List.not_mem_nil, or_false] at h
  rcases h with rfl | rfl | rfl
  · exact ⟨_, .head _, rfl, rfl⟩
  · exact ⟨_, .tail _ (.head _), rfl, rfl⟩
  · exact ⟨_, .tail _ (.tail _ (.head _)), rfl, rfl⟩

/-- A level has the global arguments after arguments of its own, which have other names. -/
def Level.OffersGlobals (l : Level) (config : Config) : Prop :=
  ∃ own, l.arguments = own ++ config.globalArguments ∧
    ∀ a ∈ own, a.isGlobal = false ∧ a.name ∉ globalFlags

/-- The level of a line of which only the global arguments are known. -/
def Config.bootstrapLevel (config : Config) : Level := config.bootstrapTree.rootLevel

theorem Config.bootstrapLevel_offersGlobals (config : Config) :
    config.bootstrapLevel.OffersGlobals config :=
  ⟨[], rfl, nofun⟩

namespace Level.OffersGlobals

variable {l : Level} {config : Config} {a : Argument} {name : String} {c : Char}

theorem argument?_eq (h : l.OffersGlobals config) (hname : name ∈ globalFlags) :
    l.argument? name = config.globalArguments.find? fun a => a.name = name := by
  obtain ⟨own, harguments, hown⟩ := h
  have hnone : own.find? (fun a => a.name = name) = none := by
    rw [List.find?_eq_none]
    intro a ha heq
    exact (hown a ha).2 (of_decide_eq_true heq ▸ hname)
  rw [argument?, harguments, List.find?_append, hnone, Option.none_or]

theorem isGlobal_iff (h : l.OffersGlobals config) (ha : a ∈ l.arguments) :
    a.isGlobal = true ↔ a.name ∈ globalFlags := by
  obtain ⟨own, harguments, hown⟩ := h
  rw [harguments] at ha
  rcases List.mem_append.1 ha with ha | ha
  · simp [hown a ha]
  · obtain ⟨hglobal, hname, -⟩ := Config.of_mem_globalArguments ha
    simp [hglobal, hname]

theorem not_isGlobal_of_short? (h : l.OffersGlobals config) (hshort : l.short? c = some a) :
    a.isGlobal = false := by
  have ha := mem_of_short? hshort
  have hc : a.short = some c := by simpa using List.find?_some hshort
  obtain ⟨own, harguments, hown⟩ := h
  rw [harguments] at ha
  rcases List.mem_append.1 ha with ha | ha
  · exact (hown a ha).1
  · rw [(Config.of_mem_globalArguments ha).2.2.1] at hc
    cases hc

/-- A word that says nothing about global arguments gives them nothing. -/
theorem wordGives_of_unrelated (h : l.OffersGlobals config)
    (hword : GlobalWord.ofString word = .unrelated) :
    (∀ o ∈ (l.wordGives (.ofString word)).1, o.1.isGlobal = false) ∧
      ∀ a ∈ (l.wordGives (.ofString word)).2, a.isGlobal = false := by
  rw [GlobalWord.ofString_eq] at hword
  cases hof : Word.ofString word with
  | escape => simp [wordGives]
  | plain => simp [wordGives]
  | short cluster => exact forall_clusterGives (fun _ _ => h.not_isGlobal_of_short?) cluster
  | long name value =>
    have hname : name ∉ globalFlags := by
      intro hname
      rw [hof] at hword
      cases value <;> simp [hname] at hword
    cases hargument : l.argument? name with
    | none => simp [wordGives, hargument]
    | some a =>
      have hglobal : a.isGlobal = false := by
        have heq : a.name = name := by simpa using List.find?_some hargument
        rw [← Bool.not_eq_true, h.isGlobal_iff (mem_of_argument? hargument), heq]
        exact hname
      cases value with
      | some v => simp [wordGives, hargument, hglobal]
      | none =>
        simp only [wordGives, hargument]
        split <;> simp [hglobal]

theorem filter_of_unrelated (h : l.OffersGlobals config)
    (hword : GlobalWord.ofString word = .unrelated) :
    (l.wordGives (.ofString word)).1.filter (·.1.isGlobal) = [] := by
  simpa [List.filter_eq_nil_iff] using (h.wordGives_of_unrelated hword).1

end Level.OffersGlobals

namespace Config

variable {word : String}

/-- The name of a global argument leaves it open, at every level that offers it. -/
theorem wordGives_of_name (config : Config) (h : GlobalWord.ofString word = .name) :
    ∃ a ∈ config.globalArguments, ∀ l : Level, l.OffersGlobals config →
      l.wordGives (.ofString word) = ([], some a) := by
  obtain ⟨name, hname, hword⟩ := GlobalWord.ofString_eq_name_iff.1 h
  obtain ⟨a, ha, -, hfind⟩ := config.exists_globalArgument hname
  refine ⟨a, ha, fun l hl => ?_⟩
  have hswitch : a.isSwitch = false := by
    simp [Argument.isSwitch, (of_mem_globalArguments ha).2.2.2]
  simp [hword, Level.wordGives, hl.argument?_eq hname, hfind, hswitch]

/-- An assignment to a global argument gives it the value, at every level that offers it. -/
theorem wordGives_of_assignment (config : Config) (h : GlobalWord.ofString word = .assignment) :
    ∃ a ∈ config.globalArguments, ∃ value, ∀ l : Level, l.OffersGlobals config →
      l.wordGives (.ofString word) = ([(a, value)], none) := by
  obtain ⟨name, hname, value, hword⟩ := GlobalWord.ofString_eq_assignment_iff.1 h
  obtain ⟨a, ha, -, hfind⟩ := config.exists_globalArgument hname
  refine ⟨a, ha, value, fun l hl => ?_⟩
  simp [hword, Level.wordGives, hl.argument?_eq hname, hfind]

end Config

namespace Level.OffersGlobals

variable {l : Level} {config : Config} {a : Argument} {word : String}

/-- A word that awaits nothing is not the mere name of a global argument. -/
theorem ne_name_of_alone (h : l.OffersGlobals config)
    (halone : (l.wordGives (.ofString word)).2 = none) : GlobalWord.ofString word ≠ .name := by
  intro hname
  obtain ⟨a, -, hgives⟩ := config.wordGives_of_name hname
  rw [hgives l h] at halone
  cases halone

/-- The name of a global argument awaits that argument; a word that awaits another one says nothing
about global arguments. -/
theorem of_awaiting (h : l.OffersGlobals config)
    (hawaits : (l.wordGives (.ofString word)).2 = some a) :
    a.isGlobal = true ∧ GlobalWord.ofString word = .name ∨
      a.isGlobal = false ∧ GlobalWord.ofString word = .unrelated := by
  cases hword : GlobalWord.ofString word with
  | unrelated => exact .inr ⟨(h.wordGives_of_unrelated hword).2 a hawaits, rfl⟩
  | name =>
    obtain ⟨b, hb, hgives⟩ := config.wordGives_of_name hword
    rw [hgives l h] at hawaits
    cases hawaits
    exact .inl ⟨(Config.of_mem_globalArguments hb).1, rfl⟩
  | assignment =>
    obtain ⟨b, -, value, hgives⟩ := config.wordGives_of_assignment hword
    rw [hgives l h] at hawaits
    cases hawaits

end Level.OffersGlobals

/-! ## The words that are picked out -/

/-- The words that are picked out give the global arguments what all words give them. What comes
after the words matters only when `--` is not the last of them. -/
theorem occurrences_globalWordsAfter {l : Level} {config : Config} (hl : l.OffersGlobals config)
    (h : l.Accepts escaped words) (rest : List String) :
    config.bootstrapLevel.occurrences none (globalWordsAfter (words ++ rest)) =
      (l.occurrences none words).filter (·.1.isGlobal) ++
        if escaped then []
        else config.bootstrapLevel.occurrences none (globalWordsAfter rest) := by
  have hboot := config.bootstrapLevel_offersGlobals
  induction h with
  | nil => simp [Level.occurrences]
  | escape =>
    have hescape : l.wordGives (.ofString "--") = ([], none) := rfl
    simp [globalWordsAfter_escape, Level.occurrences, hescape]
  | @alone word escaped words hknows halone _ ih =>
    have hne := hknows.ne_escape
    rw [List.cons_append]
    cases hword : GlobalWord.ofString word with
    | unrelated =>
      rw [globalWordsAfter_unrelated hne hword, ih, Level.occurrences, halone, List.filter_append,
        hl.filter_of_unrelated hword, List.nil_append]
    | name => exact absurd hword (hl.ne_name_of_alone halone)
    | assignment =>
      obtain ⟨a, ha, value, hgives⟩ := config.wordGives_of_assignment hword
      have hglobal : a.isGlobal = true := (Config.of_mem_globalArguments ha).1
      rw [globalWordsAfter_assignment hword, Level.occurrences, hgives _ hboot, ih,
        Level.occurrences, hgives l hl]
      simp [hglobal]
  | @valued word a value escaped words hknows hvalued hplain _ ih =>
    have hne := hknows.ne_escape
    rw [List.cons_append, List.cons_append]
    obtain ⟨hglobal, hword⟩ | ⟨hlocal, hword⟩ := hl.of_awaiting hvalued
    · obtain ⟨b, -, hgives⟩ := config.wordGives_of_name hword
      rw [hgives l hl] at hvalued
      cases hvalued
      rw [globalWordsAfter_name hword, Level.occurrences, hgives _ hboot, Level.occurrences, ih,
        Level.occurrences, hgives l hl, Level.occurrences]
      simp [hglobal]
    · rw [globalWordsAfter_unrelated hne hword, globalWordsAfter_plain hplain, ih,
        Level.occurrences, hvalued, Level.occurrences, List.filter_append,
        hl.filter_of_unrelated hword, List.filter_cons_of_neg (by simp [hlocal]), List.nil_append]

theorem rawValues_filter_isGlobal {a : Argument} (ha : a.isGlobal = true)
    (os : List Occurrence) : rawValues a (os.filter (·.1.isGlobal)) = rawValues a os := by
  unfold rawValues
  rw [List.filterMap_filter]
  refine List.filterMap_congr fun o _ => ?_
  by_cases ho : o.1 = a <;> simp [ho, ha]

/-- In words of two levels with a plain word between them, the words that are picked out give a
global argument what both levels give it. -/
theorem rawValues_globalWordsAfter {l l' : Level} {config : Config} {a : Argument}
    (hl : l.OffersGlobals config) (hl' : l'.OffersGlobals config) (h : l.Accepts false before)
    (hword : Word.ofString word = .plain) (h' : l'.Accepts escaped words)
    (ha : a.isGlobal = true) :
    config.bootstrapLevel.rawValues a (globalWordsAfter (before ++ word :: words)) =
      l.rawValues a before ++ l'.rawValues a words := by
  have hafter : config.bootstrapLevel.occurrences none (globalWordsAfter words) =
      (l'.occurrences none words).filter (·.1.isGlobal) := by
    simpa [Level.occurrences] using occurrences_globalWordsAfter hl' h' []
  rw [Level.rawValues, occurrences_globalWordsAfter hl h, if_neg Bool.false_ne_true,
    globalWordsAfter_plain hword, hafter, ← List.filter_append, rawValues_filter_isGlobal ha]
  exact List.filterMap_append

end ApiCli

import ApiCli.Proofs.Client.GlobalWords

/-!
# Lines as groups of words

The scan for global arguments takes the words of a line in groups: a global argument with its value,
in one word or in two, or any other word by itself.

* `WordGroup` is such a group. The value of a global argument can be any text, also `--` or the name
  of another global argument.
* `GroupedLine` is a row of groups with what stands at its end. `GroupedLine.exists_words_eq`: every
  line is one.
* `GroupedLine.globalWordsAfter_words`: the scan keeps the groups of global arguments, by the step
  `WordGroup.globalWordsAfter_append`. What it keeps is again a line whose groups are all global, so
  a second scan keeps everything (`globalWords_globalWords`).

**Other words do not matter** (`globalWords_keeps_globals`): wherever they stand between the groups of
global arguments, the first reading of the line is the same.
-/

namespace ApiCli

/-! ## Groups -/

/-- Words of a line that are kept or passed over together. -/
inductive WordGroup where
  /-- A word that names no global argument and is not `--`. -/
  | other (word : String) (hescape : word ≠ "--") (hother : ¬NamesGlobal word)
  /-- A global argument with its value in a word of its own. -/
  | separate (flag : String) (hflag : flag ∈ globalFlags) (value : String)
  /-- A global argument with its value in the same word. -/
  | assignment (flag : String) (hflag : flag ∈ globalFlags) (value : String)

namespace WordGroup

def words : WordGroup → List String
  | other word _ _ => [word]
  | separate flag _ value => ["--" ++ flag, value]
  | assignment flag _ value => ["--" ++ flag ++ "=" ++ value]

def isGlobal : WordGroup → Bool
  | other _ _ _ => false
  | separate _ _ _ | assignment _ _ _ => true

/-- The scan keeps or passes over a group and goes on behind it. -/
theorem globalWordsAfter_append (g : WordGroup) (rest : List String) :
    globalWordsAfter (g.words ++ rest) =
      (if g.isGlobal then g.words else []) ++ globalWordsAfter rest := by
  cases g with
  | other word hescape hother =>
    exact globalWordsAfter_unrelated hescape (GlobalWord.ofString_eq_unrelated_iff.2 hother)
  | separate flag hflag value =>
    exact globalWordsAfter_name (GlobalWord.ofString_eq_name_iff_word.2 ⟨flag, hflag, rfl⟩)
  | assignment flag hflag value =>
    exact globalWordsAfter_assignment
      (GlobalWord.ofString_eq_assignment_iff_word.2 ⟨flag, hflag, value, rfl⟩)

end WordGroup

/-! ## Lines -/

/-- What a line can have behind its groups. -/
inductive LineEnding where
  | nothing
  /-- The word `--`. No word behind it is looked at. -/
  | escape (rest : List String)
  /-- The name of a global argument, without a value. -/
  | unfinished (flag : String) (hflag : flag ∈ globalFlags)

namespace LineEnding

def words : LineEnding → List String
  | nothing => []
  | escape rest => "--" :: rest
  | unfinished flag _ => ["--" ++ flag]

/-- What is kept of the end of a line: the name without a value. -/
def kept : LineEnding → LineEnding
  | nothing | escape _ => nothing
  | unfinished flag hflag => unfinished flag hflag

theorem kept_kept (e : LineEnding) : e.kept.kept = e.kept := by
  cases e <;> rfl

theorem globalWordsAfter_words (e : LineEnding) : globalWordsAfter e.words = e.kept.words := by
  cases e with
  | nothing => rfl
  | escape rest => exact globalWordsAfter_escape rest
  | unfinished flag hflag =>
    exact globalWordsAfter_unfinished (GlobalWord.ofString_eq_name_iff_word.2 ⟨flag, hflag, rfl⟩)

end LineEnding

/-- A line as the scan for global arguments sees it. -/
structure GroupedLine where
  groups : List WordGroup
  ending : LineEnding

namespace GroupedLine

def words (l : GroupedLine) : List String := l.groups.flatMap WordGroup.words ++ l.ending.words

/-- The line without its other words. -/
def globals (l : GroupedLine) : GroupedLine := ⟨l.groups.filter WordGroup.isGlobal, l.ending.kept⟩

theorem words_cons (g : WordGroup) (groups : List WordGroup) (ending : LineEnding) :
    words ⟨g :: groups, ending⟩ = g.words ++ words ⟨groups, ending⟩ := by
  simp [words]

theorem globals_globals (l : GroupedLine) : l.globals.globals = l.globals := by
  simp [globals, LineEnding.kept_kept]

/-- The scan keeps the groups of global arguments, in their order. -/
theorem globalWordsAfter_words (l : GroupedLine) : globalWordsAfter l.words = l.globals.words := by
  obtain ⟨groups, ending⟩ := l
  induction groups with
  | nil => exact ending.globalWordsAfter_words
  | cons g groups ih =>
    rw [words_cons, g.globalWordsAfter_append, ih, globals, globals]
    cases hg : g.isGlobal with
    | false => simp [hg]
    | true => simp [hg, words_cons]

theorem exists_words_append {rest : List String} (g : WordGroup)
    (h : ∃ l : GroupedLine, l.words = rest) : ∃ l : GroupedLine, l.words = g.words ++ rest := by
  obtain ⟨⟨groups, ending⟩, rfl⟩ := h
  exact ⟨⟨g :: groups, ending⟩, words_cons g groups ending⟩

/-- Every line falls apart into groups. The recursion goes on behind a group, so by one word or by
two. -/
theorem exists_words_eq : (words : List String) → ∃ l : GroupedLine, l.words = words
  | [] => ⟨⟨[], .nothing⟩, rfl⟩
  | word :: rest => by
    by_cases hescape : word = "--"
    · subst hescape
      exact ⟨⟨[], .escape rest⟩, rfl⟩
    cases hword : GlobalWord.ofString word with
    | unrelated =>
      have hother := GlobalWord.ofString_eq_unrelated_iff.1 hword
      exact exists_words_append (.other word hescape hother) (exists_words_eq rest)
    | assignment =>
      obtain ⟨flag, hflag, value, rfl⟩ := GlobalWord.ofString_eq_assignment_iff_word.1 hword
      exact exists_words_append (.assignment flag hflag value) (exists_words_eq rest)
    | name =>
      obtain ⟨flag, hflag, rfl⟩ := GlobalWord.ofString_eq_name_iff_word.1 hword
      -- the next word is its value, whatever it looks like
      cases rest with
      | nil => exact ⟨⟨[], .unfinished flag hflag⟩, rfl⟩
      | cons value rest =>
        exact exists_words_append (.separate flag hflag value) (exists_words_eq rest)

end GroupedLine

/-! ## The words that are kept -/

/-- What is kept is kept by a second scan. -/
theorem globalWords_globalWords (args : List String) :
    globalWords (globalWords args) = globalWords args := by
  cases args with
  | nil => rfl
  | cons program words =>
    obtain ⟨l, rfl⟩ := GroupedLine.exists_words_eq words
    simp only [globalWords, GroupedLine.globalWordsAfter_words, GroupedLine.globals_globals]

/-- Words from which nothing is kept: none, or `--` and whatever comes behind it. -/
def Unread (words : List String) : Prop := words = [] ∨ ∃ rest, words = "--" :: rest

/-- The scan of a row of groups, which may have `--` behind it. -/
theorem globalWords_groups (program : String) (groups : List WordGroup) {after : List String}
    (h : Unread after) :
    globalWords (program :: (groups.flatMap WordGroup.words ++ after)) =
      program :: (groups.filter WordGroup.isGlobal).flatMap WordGroup.words := by
  obtain ⟨ending, rfl, hkept⟩ :
      ∃ ending : LineEnding, ending.words = after ∧ ending.kept = .nothing := by
    rcases h with rfl | ⟨rest, rfl⟩
    · exact ⟨.nothing, rfl, rfl⟩
    · exact ⟨.escape rest, rfl, rfl⟩
  have hscan := GroupedLine.globalWordsAfter_words ⟨groups, ending⟩
  rw [GroupedLine.globals, hkept] at hscan
  exact congrArg (program :: ·) (hscan.trans (List.append_nil _))

/-- The first reading depends on nothing but the words that are kept. -/
theorem Config.parseGlobals_congr {config : Config} {processEnv : Environment}
    {args args' : List String} (h : globalWords args = globalWords args') :
    config.parseGlobals processEnv args = config.parseGlobals processEnv args' := by
  unfold parseGlobals
  rw [h]

/-- Of a row of groups the scan keeps those of global arguments, in their order, also where `--`
and more words come behind them. So lines with the same groups of global arguments in the same order
have the same first reading, whatever stands between the groups. A second scan changes no line. -/
theorem globalWords_keeps_globals (config : Config) (processEnv : Environment) (program : String) :
    (∀ (groups : List WordGroup) (after : List String), Unread after →
      globalWords (program :: (groups.flatMap WordGroup.words ++ after)) =
        program :: (groups.filter WordGroup.isGlobal).flatMap WordGroup.words) ∧
    (∀ (groups groups' : List WordGroup) (after after' : List String),
      Unread after → Unread after' →
      groups.filter WordGroup.isGlobal = groups'.filter WordGroup.isGlobal →
        config.parseGlobals processEnv (program :: (groups.flatMap WordGroup.words ++ after)) =
          config.parseGlobals processEnv (program :: (groups'.flatMap WordGroup.words ++ after'))) ∧
    ∀ args, globalWords (globalWords args) = globalWords args := by
  refine ⟨fun groups after hafter => globalWords_groups program groups hafter, ?_,
    globalWords_globalWords⟩
  intro groups groups' after after' hafter hafter' hglobal
  apply Config.parseGlobals_congr
  rw [globalWords_groups program groups hafter, globalWords_groups program groups' hafter', hglobal]

namespace WordGroup

/-- Groups of a line that lists something. -/
def listing (baseUrl : String) : List WordGroup :=
  [other "list" (by decide) (by decide), separate baseUrlFlag (by decide) baseUrl,
    other "--limit" (by decide) (by decide), assignment specPathFlag (by decide) "--"]

/-- The same global arguments among other words. -/
def rearranged (baseUrl : String) : List WordGroup :=
  [separate baseUrlFlag (by decide) baseUrl, assignment specPathFlag (by decide) "--",
    other "--base-urls" (by decide) (by decide), other "-" (by decide) (by decide)]

end WordGroup

open WordGroup in
/-- The value `--` of a global argument does not end the scan, the word `--` does. -/
theorem globalWords_keeps_globals_listing :
    Unread ["--", "--health-path", "/"] ∧ Unread [] ∧
      globalWords ["app", "list", "--base-url", "--", "--limit", "--swagger-path=--", "--",
          "--health-path", "/"] =
        ["app", "--base-url", "--", "--swagger-path=--"] ∧
      (listing "list").filter isGlobal = (rearranged "list").filter isGlobal ∧
      (Config.new "app" "" "http://h").parseGlobals (fun _ => none)
          ["app", "list", "--base-url", "list", "--limit", "--swagger-path=--", "--",
            "--health-path", "/"] =
        .ok ⟨"list", "--", ""⟩ ∧
      globalWords (globalWords ["app", "--limit", "--base-url"]) =
        globalWords ["app", "--limit", "--base-url"] := by
  have hafter : Unread ["--", "--health-path", "/"] := .inr ⟨_, rfl⟩
  have hnil : Unread [] := .inl rfl
  have hglobal : (listing "list").filter isGlobal = (rearranged "list").filter isGlobal := rfl
  obtain ⟨hkept, hparse, htwice⟩ :=
    globalWords_keeps_globals (Config.new "app" "" "http://h") (fun _ => none) "app"
  have hrearranged : (Config.new "app" "" "http://h").parseGlobals (fun _ => none)
      ["app", "--base-url", "list", "--swagger-path=--", "--base-urls", "-"] =
    .ok ⟨"list", "--", ""⟩ := by rfl
  exact ⟨hafter, hnil, hkept (listing "--") _ hafter, hglobal,
    (hparse (listing "list") (rearranged "list") _ _ hafter hnil hglobal).trans hrearranged,
    htwice _⟩

end ApiCli

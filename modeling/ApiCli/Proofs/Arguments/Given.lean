import Mathlib.Data.List.Nodup
import ApiCli.Proofs.Arguments.Level
import ApiCli.Proofs.Arguments.Value
import ApiCli.Proofs.Dict

/-!
# The values of an argument

What an argument is found to be at a level.

* `rawValues` are the raw values that occurrences give to an argument.
* `Argument.Settled` says which source an argument's values come from: the command line, else
  the environment, else its defaults.
* `Level.settled`: every argument of a level that is read to its end is settled.
-/

namespace ApiCli

/-- The raw values that occurrences give to an argument. -/
def rawValues (a : Argument) (occurrences : List Occurrence) : List String :=
  occurrences.filterMap fun o => if o.1 = a then some o.2 else none

theorem rawValues_cons (a : Argument) (o : Occurrence) (os : List Occurrence) :
    rawValues a (o :: os) = if o.1 = a then o.2 :: rawValues a os else rawValues a os := by
  by_cases ho : o.1 = a <;> simp [rawValues, ho]

/-- The values held for a name. -/
def heldValues (given : Dict Given) (name : String) : List String :=
  ((given.get? name).map (·.values)).getD []

theorem addGiven_eq_ok {given given' : Dict Given} (h : addGiven given a source raws = .ok given') :
    ∃ values, a.type.readAll? raws = some values ∧
      given' = given.insert a.name ⟨source, heldValues given a.name ++ values⟩ := by
  unfold addGiven at h
  dsimp only at h
  split at h
  · cases h
  · split at h
    · cases h
    · next values hvalues =>
      cases h
      exact ⟨values, hvalues, rfl⟩

/-- What an argument holds after occurrences have been added. -/
theorem giveAll_get? {a : Argument} {given given' : Dict Given} {os : List Occurrence}
    (hos : ∀ o ∈ os, o.1.name = a.name → o.1 = a) (h : giveAll given os = .ok given') :
    ∃ values, a.type.readAll? (rawValues a os) = some values ∧
      given'.get? a.name =
        if rawValues a os = [] then given.get? a.name
        else some ⟨.commandLine, heldValues given a.name ++ values⟩ := by
  induction os generalizing given with
  | nil =>
    cases h
    exact ⟨[], by simp [rawValues], by simp [rawValues]⟩
  | cons o os ih =>
    rw [← List.singleton_append, giveAll_append, giveAll_singleton] at h
    obtain ⟨given₁, hadd, hrest⟩ := Except.bind_eq_ok.1 h
    obtain ⟨values, hvalues, rfl⟩ := addGiven_eq_ok hadd
    obtain ⟨values', hvalues', hget⟩ := ih (fun o ho => hos o (List.mem_cons_of_mem _ ho)) hrest
    by_cases ho : o.1 = a
    · subst ho
      have hraws : rawValues o.1 (o :: os) = o.2 :: rawValues o.1 os := by simp [rawValues]
      refine ⟨values ++ values', hraws ▸ FlagType.readAll?_cons hvalues hvalues', ?_⟩
      rw [hget, hraws]
      by_cases hnone : rawValues o.1 os = []
      · rw [hnone, FlagType.readAll?_nil] at hvalues'
        cases hvalues'
        simp [hnone]
      · simp [hnone, heldValues]
    · have hraws : rawValues a (o :: os) = rawValues a os := by simp [rawValues, ho]
      have hname : o.1.name ≠ a.name := fun hname => ho (hos o List.mem_cons_self hname)
      rw [hraws]
      exact ⟨values', hvalues', by simp [hget, heldValues, Dict.get?_insert, hname]⟩

theorem addGiven_of_not_repeatable {given given' : Dict Given} (hrepeat : a.isRepeatable = false)
    (h : addGiven given a source raws = .ok given') : given.get? a.name = none := by
  unfold addGiven at h
  dsimp only at h
  split at h
  · cases h
  · next hcontains => simpa [hrepeat, Dict.contains] using hcontains

theorem rawValues_eq_nil {a : Argument} {given given' : Dict Given} {os : List Occurrence}
    (hrepeat : a.isRepeatable = false) (hgiven : (given.get? a.name).isSome)
    (h : giveAll given os = .ok given') : rawValues a os = [] := by
  induction os generalizing given with
  | nil => rfl
  | cons o os ih =>
    rw [← List.singleton_append, giveAll_append, giveAll_singleton] at h
    obtain ⟨given₁, hadd, hrest⟩ := Except.bind_eq_ok.1 h
    have ho : o.1 ≠ a := by
      rintro rfl
      rw [addGiven_of_not_repeatable hrepeat hadd] at hgiven
      cases hgiven
    obtain ⟨values, -, rfl⟩ := addGiven_eq_ok hadd
    have hgiven₁ : ((given.insert o.1.name
        ⟨.commandLine, heldValues given o.1.name ++ values⟩).get? a.name).isSome := by
      rw [Dict.get?_insert]
      split
      · rfl
      · exact hgiven
    rw [rawValues_cons, if_neg ho]
    exact ih hgiven₁ hrest

/-- An argument that is not repeatable is given once at most. -/
theorem length_rawValues_le_one {a : Argument} {given given' : Dict Given} {os : List Occurrence}
    (hrepeat : a.isRepeatable = false) (h : giveAll given os = .ok given') :
    (rawValues a os).length ≤ 1 := by
  induction os generalizing given with
  | nil => exact Nat.zero_le 1
  | cons o os ih =>
    rw [← List.singleton_append, giveAll_append, giveAll_singleton] at h
    obtain ⟨given₁, hadd, hrest⟩ := Except.bind_eq_ok.1 h
    by_cases ho : o.1 = a
    · subst ho
      obtain ⟨values, -, rfl⟩ := addGiven_eq_ok hadd
      rw [rawValues_cons, if_pos rfl, rawValues_eq_nil hrepeat (by simp) hrest]
      exact Nat.le_refl 1
    · rw [rawValues_cons, if_neg ho]
      exact ih hrest

/-! ## What is not on the command line -/

/-- Values for arguments that are not given, where `f` has some. -/
def fill (f : Argument → Option (ValueSource × List String)) (given : Dict Given)
    (arguments : List Argument) : Except ArgumentError (Dict Given) :=
  arguments.foldlM
    (fun given a =>
      if given.contains a.name then .ok given
      else
        match f a with
        | none => .ok given
        | some (source, raws) => addGiven given a source raws)
    given

theorem addEnvironment_eq (env : Environment) (given : Dict Given) (arguments : List Argument) :
    addEnvironment env given arguments =
      fill (fun a => (a.env.bind env).map fun value => (.environment, [value])) given
        arguments := by
  unfold addEnvironment fill
  congr 1
  funext given a
  dsimp only
  cases a.env.bind env <;> rfl

theorem addDefaults_eq (given : Dict Given) (arguments : List Argument) :
    addDefaults given arguments =
      fill (fun a => if a.defaults.isEmpty then none else some (.default, a.defaults)) given
        arguments := by
  unfold addDefaults fill
  congr 1
  funext given a
  dsimp only
  cases given.contains a.name <;> cases a.defaults <;> rfl

theorem fill_cons {f : Argument → Option (ValueSource × List String)} {given given' : Dict Given}
    (h : fill f given (a :: arguments) = .ok given') :
    ∃ given₁, fill f given₁ arguments = .ok given' ∧
      (given₁ = given ∧ ((given.get? a.name).isSome ∨ f a = none) ∨
        given.get? a.name = none ∧ ∃ source raws values, f a = some (source, raws) ∧
          a.type.readAll? raws = some values ∧ given₁ = given.insert a.name ⟨source, values⟩) := by
  rw [fill, List.foldlM_cons] at h
  obtain ⟨given₁, hstep, hrest⟩ := Except.bind_eq_ok.1 h
  refine ⟨given₁, hrest, ?_⟩
  split at hstep
  · next hcontains =>
    cases hstep
    exact .inl ⟨rfl, .inl hcontains⟩
  · next hcontains =>
    split at hstep
    · next hf =>
      cases hstep
      exact .inl ⟨rfl, .inr hf⟩
    · next source raws hf =>
      obtain ⟨values, hvalues, rfl⟩ := addGiven_eq_ok hstep
      have hnone : given.get? a.name = none := by simpa [Dict.contains] using hcontains
      exact .inr ⟨hnone, source, raws, values, hf, hvalues, by simp [heldValues, hnone]⟩

theorem fill_get?_of_notMem {f : Argument → Option (ValueSource × List String)}
    {given given' : Dict Given} (hname : name ∉ arguments.map (·.name))
    (h : fill f given arguments = .ok given') : given'.get? name = given.get? name := by
  induction arguments generalizing given with
  | nil => cases h; rfl
  | cons a arguments ih =>
    obtain ⟨ha, hname⟩ := List.ne_and_not_mem_of_not_mem_cons hname
    obtain ⟨given₁, hrest, ⟨rfl, -⟩ | ⟨-, source, raws, values, -, -, rfl⟩⟩ := fill_cons h
    · exact ih hname hrest
    · rw [ih hname hrest, Dict.get?_insert, if_neg (Ne.symm ha)]

/-- What was given stays; else an argument has the values that `f` has for it. -/
theorem fill_get? {f : Argument → Option (ValueSource × List String)} {given given' : Dict Given}
    (hnames : (arguments.map (·.name)).Nodup) (ha : a ∈ arguments)
    (h : fill f given arguments = .ok given') :
    given'.get? a.name = given.get? a.name ∧ ((given.get? a.name).isSome ∨ f a = none) ∨
      given.get? a.name = none ∧ ∃ source raws values, f a = some (source, raws) ∧
        a.type.readAll? raws = some values ∧ given'.get? a.name = some ⟨source, values⟩ := by
  induction arguments generalizing given with
  | nil => cases ha
  | cons b arguments ih =>
    obtain ⟨hb, hnames⟩ := List.nodup_cons.1 hnames
    obtain ⟨given₁, hrest, hstep⟩ := fill_cons h
    rcases List.mem_cons.1 ha with rfl | ha
    · rw [fill_get?_of_notMem hb hrest]
      obtain ⟨rfl, hkept⟩ | ⟨hnone, source, raws, values, hf, hvalues, rfl⟩ := hstep
      · exact .inl ⟨rfl, hkept⟩
      · exact .inr ⟨hnone, source, raws, values, hf, hvalues, Dict.get?_insert_self _ _ _⟩
    · have hne : b.name ≠ a.name := fun heq =>
        hb (List.mem_map.2 ⟨a, ha, heq.symm⟩)
      have hsame : given₁.get? a.name = given.get? a.name := by
        obtain ⟨rfl, -⟩ | ⟨-, source, raws, values, -, -, rfl⟩ := hstep
        · rfl
        · rw [Dict.get?_insert, if_neg hne]
      exact hsame ▸ ih hnames ha hrest

/-! ## All sources together -/

/-- What an argument is found to be, given the raw values that the words give it. -/
inductive Argument.Settled (env : Environment) (a : Argument) (raws : List String) :
    Option Given → Prop
  | commandLine : raws ≠ [] → a.type.readAll? raws = some values →
      Settled env a raws (some ⟨.commandLine, values⟩)
  | environment : raws = [] → a.env.bind env = some value →
      a.type.readAll? [value] = some values → Settled env a raws (some ⟨.environment, values⟩)
  | default : raws = [] → a.env.bind env = none → a.defaults ≠ [] →
      a.type.readAll? a.defaults = some values → Settled env a raws (some ⟨.default, values⟩)
  | absent : raws = [] → a.env.bind env = none → a.defaults = [] → Settled env a raws none

namespace Argument.Settled

variable {env : Environment} {a : Argument}

theorem unique {g g' : Option Given} (h : a.Settled env raws g) (h' : a.Settled env raws g') :
    g = g' := by
  cases h <;> cases h' <;> simp_all

theorem of_ne_nil {g : Option Given} (h : a.Settled env raws g) (hraws : raws ≠ []) :
    ∃ values, g = some ⟨.commandLine, values⟩ := by
  cases h with
  | commandLine => exact ⟨_, rfl⟩
  | environment hnil => exact absurd hnil hraws
  | default hnil => exact absurd hnil hraws
  | absent hnil => exact absurd hnil hraws

theorem source_ne {g : Option Given} (h : a.Settled env [] g) :
    ∀ given ∈ g, given.source ≠ .commandLine := by
  intro given hgiven
  cases h with
  | commandLine hraws => exact absurd rfl hraws
  | environment => cases hgiven; nofun
  | default => cases hgiven; nofun
  | absent => cases hgiven

end Argument.Settled

namespace Level

/-- The raw values that words give to an argument. -/
def rawValues (l : Level) (a : Argument) (words : List String) : List String :=
  ApiCli.rawValues a (l.occurrences none words)

theorem mem_of_argument? {l : Level} (h : l.argument? name = some a) : a ∈ l.arguments :=
  List.mem_of_find?_eq_some h

theorem mem_of_short? {l : Level} (h : l.short? c = some a) : a ∈ l.arguments :=
  List.mem_of_find?_eq_some h

/-- All arguments of occurrences, the awaited one included, are among those of the level. -/
def Within (l : Level) (gives : List Occurrence × Option Argument) : Prop :=
  (∀ o ∈ gives.1, o.1 ∈ l.arguments) ∧ ∀ a ∈ gives.2, a ∈ l.arguments

/-- What holds of all arguments with short aliases holds of all that a cluster gives. -/
theorem forall_clusterGives {l : Level} {P : Argument → Prop}
    (h : ∀ c a, l.short? c = some a → P a) (cluster : List Char) :
    (∀ o ∈ (l.clusterGives cluster).1, P o.1) ∧ ∀ a ∈ (l.clusterGives cluster).2, P a := by
  induction cluster with
  | nil => simp [clusterGives]
  | cons c rest ih =>
    unfold clusterGives
    cases hshort : l.short? c with
    | none => simp
    | some a =>
      have ha := h c a hshort
      dsimp only
      split
      · simp [ha]
      · split
        · exact ⟨by simpa [ha] using ih.1, ih.2⟩
        · split <;> simp [ha]

theorem within_clusterGives (l : Level) (cluster : List Char) :
    l.Within (l.clusterGives cluster) :=
  forall_clusterGives (fun _ _ => mem_of_short?) cluster

theorem within_wordGives (l : Level) (w : Word) : l.Within (l.wordGives w) := by
  cases w with
  | escape => simp [wordGives, Within]
  | plain => simp [wordGives, Within]
  | short cluster => exact l.within_clusterGives cluster
  | long name value =>
    cases hargument : l.argument? name with
    | none => simp [wordGives, hargument, Within]
    | some a =>
      have ha := mem_of_argument? hargument
      cases value with
      | some v => simp [wordGives, hargument, Within, ha]
      | none =>
        simp only [wordGives, hargument]
        split <;> simp [Within, ha]

theorem mem_of_occurrences {l : Level} {awaited : Option Argument} {words : List String}
    (hawaited : ∀ a ∈ awaited, a ∈ l.arguments) : ∀ o ∈ l.occurrences awaited words,
      o.1 ∈ l.arguments := by
  induction words generalizing awaited with
  | nil => simp [occurrences]
  | cons word rest ih =>
    intro o ho
    cases awaited with
    | some a =>
      rcases List.mem_cons.1 ho with rfl | ho
      · exact hawaited a rfl
      · exact ih (by simp) o ho
    | none =>
      have hwithin := l.within_wordGives (.ofString word)
      rcases List.mem_append.1 ho with ho | ho
      · exact hwithin.1 o ho
      · exact ih hwithin.2 o ho

/-- Every argument of a level that is read to its end is settled. -/
theorem settled {l : Level} (hnames : (l.arguments.map (·.name)).Nodup) (ha : a ∈ l.arguments)
    (hread : words.foldlM (Reading.read l) Reading.start = .ok r)
    (hclose : r.close env l.arguments = .ok given) :
    a.Settled env (l.rawValues a words) (given.get? a.name) := by
  unfold Reading.close at hclose
  obtain ⟨given₀, hsettle, hclose⟩ := Except.bind_eq_ok.1 hclose
  obtain ⟨given₁, henv, hdefaults⟩ := Except.bind_eq_ok.1 hclose
  rw [addEnvironment_eq] at henv
  rw [addDefaults_eq] at hdefaults
  have hgive : giveAll Dict.empty (l.occurrences none words) = .ok given₀ :=
    read_occurrences hread hsettle
  have hos : ∀ o ∈ l.occurrences none words, o.1.name = a.name → o.1 = a := fun o ho hname =>
    List.inj_on_of_nodup_map hnames (mem_of_occurrences (by simp) o ho) ha hname
  obtain ⟨values, hvalues, hget⟩ := giveAll_get? hos hgive
  by_cases hraws : ApiCli.rawValues a (l.occurrences none words) = []
  · rw [if_pos hraws, Dict.get?_empty] at hget
    rcases fill_get? hnames ha henv with ⟨hsame, hkept⟩ | ⟨-, source, raws, vs, hf, hvs, hget₁⟩
    · have hnoenv : a.env.bind env = none := by simpa [hget] using hkept
      rw [hget] at hsame
      rcases fill_get? hnames ha hdefaults with
        ⟨hsame', hkept'⟩ | ⟨-, source, raws, vs, hf, hvs, hget'⟩
      · have hnodefault : a.defaults = [] := by simpa [hsame] using hkept'
        rw [hsame', hsame]
        exact .absent hraws hnoenv hnodefault
      · rw [hget']
        split at hf
        · cases hf
        · next hdefault =>
          cases hf
          exact .default hraws hnoenv (by simpa using hdefault) hvs
    · obtain ⟨value, hvalue, heq⟩ := Option.map_eq_some_iff.1 hf
      cases heq
      rcases fill_get? hnames ha hdefaults with ⟨hsame, -⟩ | ⟨hnone, -⟩
      · rw [hsame, hget₁]
        exact .environment hraws hvalue hvs
      · simp [hget₁] at hnone
  · rw [if_neg hraws] at hget
    have hget : given₀.get? a.name = some ⟨.commandLine, values⟩ := by
      simpa [heldValues] using hget
    have hget₁ : given₁.get? a.name = some ⟨.commandLine, values⟩ := by
      rcases fill_get? hnames ha henv with ⟨hsame, -⟩ | ⟨hnone, -⟩
      · rw [hsame, hget]
      · simp [hget] at hnone
    rcases fill_get? hnames ha hdefaults with ⟨hsame, -⟩ | ⟨hnone, -⟩
    · rw [hsame, hget₁]
      exact .commandLine hraws hvalues
    · simp [hget₁] at hnone

end Level
end ApiCli

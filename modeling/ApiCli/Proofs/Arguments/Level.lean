import ApiCli.Arguments.Parse
import ApiCli.Proofs.Except

/-!
# What a level of a command line gives

A level's words, read one after the other, say the same as a list of arguments with their raw
values.

* `Level.occurrences` is that list: which argument each word gives, with which text. It knows
  nothing of types, repetitions or faults.
* `giveAll` adds a list of occurrences to what is given.
* `Reading.read_cases` is the step: what an accepted word can be, and what it does to a reading.
* `read_occurrences`: where words are accepted, what is given in the end is what their occurrences
  give in turn.
* `foldlM_read_of_scan` and `scan_called`: a scan reads the words one after the other, to their end
  or up to the word that calls something.
-/

namespace ApiCli

/-- An argument with a value as the command line writes it. -/
abbrev Occurrence := Argument × String

namespace Level

/-- What short aliases give one after the other, and the argument that awaits the next word. -/
def clusterGives (l : Level) : List Char → List Occurrence × Option Argument
  | [] => ([], none)
  | c :: rest =>
    match l.short? c with
    | none => ([], none)
    | some a =>
      match rest with
      | '=' :: value => ([(a, String.ofList value)], none)
      | rest =>
        if a.isSwitch then ((a, "true") :: (clusterGives l rest).1, (clusterGives l rest).2)
        else if rest.isEmpty then ([], some a)
        else ([(a, String.ofList rest)], none)

theorem clusterGives_of_ne {l : Level} (hshort : l.short? c = some a)
    (hequals : ∀ value, rest = '=' :: value → False) :
    l.clusterGives (c :: rest) =
      if a.isSwitch then ((a, "true") :: (l.clusterGives rest).1, (l.clusterGives rest).2)
      else if rest.isEmpty then ([], some a)
      else ([(a, String.ofList rest)], none) := by
  rw [clusterGives, hshort]
  dsimp only
  split
  · next value => exact absurd rfl (hequals value)
  · rfl

/-- What a word gives, and the argument that awaits the next word. -/
def wordGives (l : Level) : Word → List Occurrence × Option Argument
  | .long name value =>
    match l.argument? name, value with
    | none, _ => ([], none)
    | some a, some value => ([(a, value)], none)
    | some a, none => if a.isSwitch then ([(a, "true")], none) else ([], some a)
  | .short cluster => l.clusterGives cluster
  | .escape | .plain => ([], none)

/-- What words give, in order, after a word that left `awaited` open. -/
def occurrences (l : Level) : Option Argument → List String → List Occurrence
  | _, [] => []
  | some a, word :: rest => (a, word) :: l.occurrences none rest
  | none, word :: rest =>
    (l.wordGives (.ofString word)).1 ++ l.occurrences (l.wordGives (.ofString word)).2 rest

end Level

/-- Add occurrences one after the other. -/
def giveAll (given : Dict Given) (occurrences : List Occurrence) :
    Except ArgumentError (Dict Given) :=
  occurrences.foldlM (fun given o => addGiven given o.1 .commandLine [o.2]) given

@[simp] theorem giveAll_nil (given : Dict Given) : giveAll given [] = .ok given := rfl

@[simp] theorem giveAll_singleton (given : Dict Given) (o : Occurrence) :
    giveAll given [o] = addGiven given o.1 .commandLine [o.2] := by
  rw [giveAll, List.foldlM_cons]
  exact bind_pure _

theorem giveAll_append (given : Dict Given) (xs ys : List Occurrence) :
    giveAll given (xs ++ ys) = giveAll given xs >>= fun given => giveAll given ys :=
  List.foldlM_append

/-- A word that begins with an argument of the level, by its name or by its short alias. -/
def Level.Knows (l : Level) (word : String) : Prop :=
  match Word.ofString word with
  | .long name _ => (l.argument? name).isSome
  | .short cluster => ∃ c ∈ cluster.head?, (l.short? c).isSome
  | .escape | .plain => False

namespace Reading

/-- The argument that awaits its value. -/
def awaited (r : Reading) : Option Argument :=
  match r.current with
  | .awaiting a => some a
  | _ => none

/-- The value that has been seen but not looked at. -/
def pending (r : Reading) : List Occurrence :=
  match r.current with
  | .collected a value => [(a, value)]
  | _ => []

theorem settle_eq_ok {r : Reading} {given : Dict Given} (h : r.settle = .ok given) :
    r.awaited = none ∧ giveAll r.given r.pending = .ok given := by
  unfold settle at h
  unfold awaited pending
  cases hcurrent : r.current with
  | nothing => exact ⟨rfl, by simpa [hcurrent] using h⟩
  | awaiting a => simp [hcurrent] at h
  | collected a value =>
    rw [hcurrent] at h
    exact ⟨rfl, by simpa using h⟩

/-- After a reading that awaits nothing, `r'` is reached by what `gives` says. -/
structure Advances (r : Reading) (gives : List Occurrence × Option Argument) (r' : Reading) :
    Prop where
  awaited : r.awaited = none
  given : giveAll r.given (r.pending ++ gives.1) = giveAll r'.given r'.pending
  awaits : r'.awaited = gives.2
  escaped : r'.escaped = r.escaped

theorem give_advances {r r' : Reading} (h : r.give a value = .ok r') :
    r.Advances ([(a, value)], none) r' := by
  unfold give at h
  obtain ⟨given, hsettle, h⟩ := Except.bind_eq_ok.1 h
  obtain ⟨given', hadd, h⟩ := Except.bind_eq_ok.1 h
  cases h
  obtain ⟨hawaited, hgiven⟩ := settle_eq_ok hsettle
  refine ⟨hawaited, ?_, rfl, rfl⟩
  rw [giveAll_append, hgiven, Except.ok_bind]
  simpa [pending] using hadd

theorem await_advances {r r' : Reading} (h : r.await a = .ok r') :
    r.Advances ([], some a) r' := by
  unfold await at h
  obtain ⟨given, hsettle, h⟩ := Except.bind_eq_ok.1 h
  cases h
  obtain ⟨hawaited, hgiven⟩ := settle_eq_ok hsettle
  exact ⟨hawaited, by simpa [pending] using hgiven, rfl, rfl⟩

theorem Advances.trans {r₁ r₂ r₃ : Reading} (h : r₁.Advances (xs, none) r₂)
    (h' : r₂.Advances (ys, a) r₃) : r₁.Advances (xs ++ ys, a) r₃ := by
  refine ⟨h.awaited, ?_, h'.awaits, h'.escaped.trans h.escaped⟩
  rw [← h'.given, ← List.append_assoc, giveAll_append, h.given, ← giveAll_append]

theorem askHelp_ne_ok (r r' : Reading) : r.askHelp ≠ .ok r' := by
  intro h
  obtain ⟨u, -, h⟩ := Except.bind_eq_ok.1 h
  cases h

theorem long_advances {r r' : Reading} (h : r.long l name value = .ok r') :
    r.Advances (l.wordGives (.long name value)) r' := by
  unfold long at h
  cases hargument : l.argument? name with
  | none =>
    rw [hargument] at h
    dsimp only at h
    split at h
    · cases value with
      | none => exact absurd h (askHelp_ne_ok r r')
      | some v => cases h
    · cases h
  | some a =>
    rw [hargument] at h
    cases value with
    | some v =>
      simp only [Level.wordGives, hargument]
      exact give_advances h
    | none =>
      simp only [Level.wordGives, hargument]
      dsimp only at h
      split at h
      · next hs => rw [if_pos hs]; exact give_advances h
      · next hs => rw [if_neg hs]; exact await_advances h

theorem short_advances {r r' : Reading} {cluster : List Char} (hr : r.awaited = none ∨ cluster ≠ [])
    (h : r.short l cluster = .ok r') : r.Advances (l.clusterGives cluster) r' := by
  induction cluster generalizing r with
  | nil =>
    cases h
    have hawaited : r'.awaited = none := by simpa using hr
    exact ⟨hawaited, by simp [Level.clusterGives], hawaited, rfl⟩
  | cons c rest ih =>
    unfold short at h
    cases hshort : l.short? c with
    | none =>
      rw [hshort] at h
      dsimp only at h
      split at h
      · exact absurd h (askHelp_ne_ok r r')
      · cases h
    | some a =>
      rw [hshort] at h
      dsimp only at h
      split at h
      · simp only [Level.clusterGives, hshort]
        exact give_advances h
      · next hequals =>
        rw [Level.clusterGives_of_ne hshort hequals]
        split at h
        · next hs =>
          rw [if_pos hs]
          obtain ⟨r₁, hgive, h⟩ := Except.bind_eq_ok.1 h
          have first := give_advances hgive
          exact first.trans (ih (.inl first.awaits) h)
        · next hs =>
          rw [if_neg hs]
          cases rest with
          | nil => exact await_advances h
          | cons d rest => exact give_advances h

theorem long_known {r r' : Reading} (h : r.long l name value = .ok r') :
    (l.argument? name).isSome := by
  cases hargument : l.argument? name with
  | some a => rfl
  | none =>
    unfold long at h
    rw [hargument] at h
    dsimp only at h
    split at h
    · cases value with
      | none => exact absurd h (askHelp_ne_ok r r')
      | some v => cases h
    · cases h

theorem short_known {r r' : Reading} (h : r.short l (c :: rest) = .ok r') :
    (l.short? c).isSome := by
  cases hshort : l.short? c with
  | some a => rfl
  | none =>
    unfold short at h
    rw [hshort] at h
    dsimp only at h
    split at h
    · exact absurd h (askHelp_ne_ok r r')
    · cases h

theorem Word.ofString_short {s : String} {cluster : List Char}
    (h : Word.ofString s = .short cluster) : ∃ c rest, cluster = c :: rest := by
  unfold Word.ofString at h
  split at h <;> cases h
  exact ⟨_, _, rfl⟩

/-- An accepted word is the value that is awaited, ends the options, or gives what it says. -/
theorem read_cases {r r' : Reading} (h : r.read l word = .ok r') :
    r.escaped = false ∧
      ((∃ a, Word.ofString word = .plain ∧ r.current = .awaiting a ∧
          r' = { r with current := .collected a word }) ∨
        (Word.ofString word = .escape ∧ r' = { r with escaped := true }) ∨
        l.Knows word ∧ r.Advances (l.wordGives (.ofString word)) r') := by
  unfold read at h
  split at h
  · cases h
  · next hescaped =>
    refine ⟨by simpa using hescaped, ?_⟩
    cases hword : Word.ofString word with
    | escape =>
      rw [hword] at h
      cases h
      exact .inr (.inl ⟨rfl, rfl⟩)
    | long name value =>
      rw [hword] at h
      refine .inr (.inr ⟨?_, long_advances h⟩)
      rw [Level.Knows, hword]
      exact long_known h
    | short cluster =>
      obtain ⟨c, rest, rfl⟩ := Word.ofString_short hword
      rw [hword] at h
      refine .inr (.inr ⟨?_, short_advances (.inr (List.cons_ne_nil c rest)) h⟩)
      rw [Level.Knows, hword]
      exact ⟨c, rfl, short_known h⟩
    | plain =>
      rw [hword] at h
      dsimp only at h
      split at h
      · next a hcurrent =>
        cases h
        exact .inl ⟨a, rfl, hcurrent, rfl⟩
      · cases h

end Reading

namespace Level

theorem call?_eq_none {l : Level} (h : l.subcommands = []) (word : String) :
    l.call? word = none := by
  simp [call?, h]

/-- Without subcommands the words are read one after the other. -/
theorem foldlM_read_of_scan {l : Level} (hsub : l.subcommands = []) {r r' : Reading}
    (h : l.scan r words = .ok (r', call)) : words.foldlM (Reading.read l) r = .ok r' := by
  induction words generalizing r with
  | nil => cases h; rfl
  | cons word rest ih =>
    rw [scan, call?_eq_none hsub, ite_self] at h
    cases hread : r.read l word with
    | error e => simp [hread] at h
    | ok r₁ =>
      rw [hread] at h
      rw [List.foldlM_cons, hread]
      exact ih h

/-- The words before the one that calls something are read one after the other. -/
theorem scan_called {l : Level} {r r' : Reading} {words rest : List String}
    (h : l.scan r words = .ok (r', some (call, rest))) :
    ∃ before word, words = before ++ word :: rest ∧
      before.foldlM (Reading.read l) r = .ok r' ∧ r'.acceptsCall = true ∧
      l.call? word = some call := by
  induction words generalizing r with
  | nil => cases h
  | cons word words ih =>
    unfold scan at h
    split at h
    · next found hfound =>
      cases h
      split at hfound
      · next haccepts => exact ⟨[], word, rfl, rfl, haccepts, hfound⟩
      · cases hfound
    · cases hread : r.read l word with
      | error e => simp [hread] at h
      | ok r₁ =>
        rw [hread] at h
        obtain ⟨before, called, rfl, hbefore, haccepts, hcall⟩ := ih h
        refine ⟨word :: before, called, rfl, ?_, haccepts, hcall⟩
        rw [List.foldlM_cons, hread]
        exact hbefore

/-- What is given in the end is what the words give in turn. -/
theorem read_occurrences {l : Level} {r r' : Reading} {given : Dict Given}
    (h : words.foldlM (Reading.read l) r = .ok r') (hsettle : r'.settle = .ok given) :
    giveAll r.given (r.pending ++ l.occurrences r.awaited words) = .ok given := by
  induction words generalizing r with
  | nil =>
    cases h
    simpa [occurrences] using (Reading.settle_eq_ok hsettle).2
  | cons word rest ih =>
    obtain ⟨r₁, hread, hrest⟩ := Except.bind_eq_ok.1 h
    obtain ⟨hescaped, ⟨a, -, hcurrent, rfl⟩ | ⟨hword, rfl⟩ | ⟨-, hadvances⟩⟩ :=
      Reading.read_cases hread
    · have hgive := ih hrest
      simpa [Reading.pending, Reading.awaited, hcurrent, occurrences] using hgive
    · -- nothing is accepted after the end of the options
      cases rest with
      | cons word' rest =>
        obtain ⟨r₂, hread', -⟩ := Except.bind_eq_ok.1 hrest
        exact absurd (Reading.read_cases hread').1 (by simp)
      | nil =>
        cases hrest
        obtain ⟨hawaited, hgive : giveAll r.given r.pending = .ok given⟩ :=
          Reading.settle_eq_ok hsettle
        rw [show r.awaited = none from hawaited]
        simpa [occurrences, hword, wordGives] using hgive
    · have hgive := ih hrest
      rw [hadvances.awaits] at hgive
      rw [hadvances.awaited, occurrences, ← List.append_assoc, giveAll_append, hadvances.given,
        ← giveAll_append, hgive]

end Level
end ApiCli

import ApiCli.Proofs.Arguments.Given

/-!
# Accepted words

What the words look like that a level accepts.

* `Level.Accepts`: they are options that the level knows, each in one word or with its value in the
  next one, and at most a last `--`. Whatever reads accepted words in another way is related to the
  level by induction on this.
* `accepts_of_read` is where that comes from: a value is awaited by one option at most, so the words
  fall apart into options from left to right.
* `Level.separateValues` are the values that stand in words of their own.
-/

namespace ApiCli

/-! ## Words by their hyphens -/

namespace Word

theorem ofString_eq_escape_iff {s : String} : ofString s = .escape ↔ s = "--" := by
  constructor
  · intro h
    unfold ofString at h
    split at h
    · next hs => rw [← String.ofList_toList (s := s), hs]
    · cases h
    · cases h
    · cases h
  · rintro rfl
    rfl

/-- A word without a hyphen in front is plain, and so is a single hyphen. -/
theorem ofString_eq_plain_iff {s : String} :
    ofString s = .plain ↔ s = "-" ∨ s.toList.head? ≠ some '-' := by
  have hhyphen : s = "-" ↔ s.toList = ['-'] := by
    constructor
    · rintro rfl
      rfl
    · intro hs
      rw [← String.ofList_toList (s := s), hs]
  rw [hhyphen]
  unfold ofString
  split
  · next hs => simp [hs]
  · next hs => simp [hs]
  · next hs => simp [hs]
  · next hshort =>
    match hs : s.toList with
    | [] => simp
    | [c] => by_cases hc : c = '-' <;> simp [hc]
    | c :: d :: rest =>
      have hc : c ≠ '-' := by
        rintro rfl
        exact hshort d rest hs
      simp [hc]

/-- A long name without a value is the whole word. -/
theorem eq_of_ofString_long {s name : String} (h : ofString s = .long name none) :
    s = "--" ++ name := by
  unfold ofString at h
  split at h
  · cases h
  · next rest _ hs =>
    obtain ⟨hname, hvalue⟩ := Word.long.inj h
    have hbreak : Text.breakAt '=' rest = ((Text.breakAt '=' rest).1, none) :=
      Prod.ext rfl (by simpa using hvalue)
    rw [← hname, Text.eq_of_breakAt_none hbreak, ← String.toList_inj, hs]
    simp
  · cases h
  · cases h

/-- A long name with a value is in front of the first equals sign. -/
theorem eq_of_ofString_assignment {s name value : String}
    (h : ofString s = .long name (some value)) : s = "--" ++ name ++ "=" ++ value := by
  unfold ofString at h
  split at h
  · cases h
  · next rest _ hs =>
    obtain ⟨hname, hvalue⟩ := Word.long.inj h
    obtain ⟨after, hafter, rfl⟩ := Option.map_eq_some_iff.1 hvalue
    obtain ⟨hrest, -⟩ := Text.eq_of_breakAt_some (Prod.ext rfl hafter)
    rw [hname.symm, ← String.toList_inj, hs]
    simpa using hrest
  · cases h
  · cases h

theorem ne_escape_of_plain {s : String} (h : ofString s = .plain) : s ≠ "--" := by
  intro heq
  rw [ofString_eq_escape_iff.2 heq] at h
  cases h

end Word

namespace Level

/-! ## Options in turn -/

/-- Words that a level accepts, and whether `--` is the last of them. -/
inductive Accepts (l : Level) : Bool → List String → Prop
  | nil : Accepts l false []
  | escape : Accepts l true ["--"]
  /-- An option in one word. -/
  | alone : l.Knows word → (l.wordGives (.ofString word)).2 = none → Accepts l escaped rest →
      Accepts l escaped (word :: rest)
  /-- An option with its value in the next word. -/
  | valued : l.Knows word → (l.wordGives (.ofString word)).2 = some a →
      Word.ofString value = .plain → Accepts l escaped rest →
      Accepts l escaped (word :: value :: rest)

variable {l : Level} {r r' : Reading} {word : String} {words : List String}

theorem Knows.not_plain (h : l.Knows word) : Word.ofString word ≠ .plain := by
  intro hplain
  rw [Knows, hplain] at h
  exact h

theorem Knows.ne_escape (h : l.Knows word) : word ≠ "--" := by
  intro heq
  rw [Knows, Word.ofString_eq_escape_iff.2 heq] at h
  exact h

theorem Knows.head? (h : l.Knows word) : word.toList.head? = some '-' := by
  by_contra hhead
  exact h.not_plain (Word.ofString_eq_plain_iff.2 (.inr hhead))

theorem accepts_of_read_from (h : words.foldlM (Reading.read l) r = .ok r')
    (hopen : r.escaped = false) (hend : r'.awaited = none) :
    (r.awaited = none → l.Accepts r'.escaped words) ∧
      ∀ a, r.awaited = some a → ∃ value rest, words = value :: rest ∧
        Word.ofString value = .plain ∧ l.Accepts r'.escaped rest := by
  induction words generalizing r with
  | nil =>
    cases h
    rw [hopen, hend]
    exact ⟨fun _ => .nil, by simp⟩
  | cons word rest ih =>
    obtain ⟨r₁, hread, hrest⟩ := Except.bind_eq_ok.1 h
    obtain ⟨-, ⟨a, hplain, hcurrent, rfl⟩ | ⟨hword, rfl⟩ | ⟨hknows, hadvances⟩⟩ :=
      Reading.read_cases hread
    · have hawaited : r.awaited = some a := by simp [Reading.awaited, hcurrent]
      obtain ⟨haccepts, -⟩ := ih hrest hopen
      rw [hawaited]
      exact ⟨by simp, fun _ _ => ⟨word, rest, rfl, hplain, haccepts rfl⟩⟩
    · -- nothing is accepted after `--`
      cases rest with
      | cons word' rest =>
        obtain ⟨r₂, hread', -⟩ := Except.bind_eq_ok.1 hrest
        exact absurd (Reading.read_cases hread').1 (by simp)
      | nil =>
        cases hrest
        obtain rfl := Word.ofString_eq_escape_iff.1 hword
        rw [show r.awaited = none from hend]
        exact ⟨fun _ => .escape, by simp⟩
    · obtain ⟨haccepts, hvalue⟩ := ih hrest (hadvances.escaped.trans hopen)
      rw [hadvances.awaited]
      refine ⟨fun _ => ?_, by simp⟩
      cases hawaits : (l.wordGives (.ofString word)).2 with
      | none => exact .alone hknows hawaits (haccepts (hadvances.awaits.trans hawaits))
      | some a =>
        obtain ⟨value, rest, rfl, hplain, hrest⟩ := hvalue a (hadvances.awaits.trans hawaits)
        exact .valued hknows hawaits hplain hrest

/-- Words that are read from the start to a reading that awaits nothing. -/
theorem accepts_of_read (h : words.foldlM (Reading.read l) Reading.start = .ok r)
    (hend : r.awaited = none) : l.Accepts r.escaped words :=
  (accepts_of_read_from h rfl hend).1 rfl

/-! ## Values in words of their own -/

/-- The values that stand in words of their own, with their arguments, after a word that left
`awaited` open. -/
def separateValues (l : Level) : Option Argument → List String → List Occurrence
  | _, [] => []
  | some a, word :: rest => (a, word) :: l.separateValues none rest
  | none, word :: rest => l.separateValues (l.wordGives (.ofString word)).2 rest

theorem separateValues_sublist (l : Level) (awaited : Option Argument) (words : List String) :
    (l.separateValues awaited words).Sublist (l.occurrences awaited words) := by
  induction words generalizing awaited with
  | nil => cases awaited <;> exact .slnil
  | cons word rest ih =>
    cases awaited with
    | some a => exact (ih none).cons_cons (a, word)
    | none => exact (ih _).trans (List.sublist_append_right _ _)

end Level
end ApiCli

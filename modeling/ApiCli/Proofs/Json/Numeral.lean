import ApiCli.Json.Numeral

/-!
# Numerals

The texts that are kept of numbers.

* `NumberPart.Reads text part`: a number begins with the text, is kept as it is and goes on at the
  part.
* `IsNumeral` is the property of being kept of some number.
* `isNumeral_iff`: these are the texts that are kept as they are.
* `ofMembers?_cases` says what members stand for.
-/

namespace ApiCli.Json

namespace NumberPart

/-- Reading the text character by character keeps all of it and leads to the part. -/
inductive Reads : List Char → NumberPart → Prop
  | enter : NumberPart.enter c = some ([c], part) → Reads [c] part
  | step : Reads text part → part.step c = some ([c], next) → Reads (text ++ [c]) next

variable {text added : List Char} {part next : NumberPart} {c : Char}

theorem reads_of_enter (h : NumberPart.enter c = some (added, part)) :
    added = [c] ∧ Reads added part := by
  have hadded : added = [c] := by
    unfold NumberPart.enter at h
    grind
  subst hadded
  exact ⟨rfl, .enter h⟩

/-- What a step adds can be read again: `e` begins an exponent as well as `E` does, and an added plus
sign is read as if it had been there. -/
theorem Reads.append (hread : Reads text part) (h : part.step c = some (added, next)) :
    Reads (text ++ added) next := by
  by_cases hsame : added = [c]
  · subst hsame
    exact .step hread h
  · have hexponent : added = ['e'] ∧ part.step 'e' = some (['e'], next) ∨
        part = .exponent ∧ added = ['+', c] ∧ next = .exponentDigits ∧ c.isDigit = true := by
      cases part <;> grind [NumberPart.step]
    rcases hexponent with ⟨rfl, he⟩ | ⟨rfl, rfl, rfl, hdigit⟩
    · exact .step hread he
    · rw [show ['+', c] = ['+'] ++ [c] from rfl, ← List.append_assoc]
      have hsign : Reads (text ++ ['+']) .exponentSign := .step hread rfl
      refine .step hsign ?_
      rw [NumberPart.step, if_pos hdigit]

theorem Reads.rest? {rest kept : List Char} (hread : Reads text part)
    (h : part.rest? rest = some kept) : ∃ last, Reads (text ++ kept) last ∧ last.final = true := by
  induction rest generalizing text part kept with
  | nil =>
    rw [NumberPart.rest?] at h
    split at h
    · next hfinal =>
      obtain rfl := Option.some.inj h
      rw [List.append_nil]
      exact ⟨part, hread, hfinal⟩
    · cases h
  | cons c rest ih =>
    rw [NumberPart.rest?] at h
    cases hstep : part.step c with
    | none => simp [hstep] at h
    | some s =>
      obtain ⟨added, next⟩ := s
      simp only [hstep] at h
      obtain ⟨more, hmore, rfl⟩ := Option.map_eq_some_iff.1 h
      rw [← List.append_assoc]
      exact ih (hread.append hstep) hmore

/-- A text that is read is kept. -/
theorem Reads.numeral?_append (hread : Reads text part) (rest : List Char) :
    numeral? (text ++ rest) = (part.rest? rest).map (text ++ ·) := by
  induction hread generalizing rest with
  | enter h => rw [List.singleton_append, numeral?, h]
  | step hread h ih =>
    rw [List.append_assoc, ih, List.singleton_append, NumberPart.rest?, h]
    simp [Function.comp_def]

end NumberPart

/-- A text is kept of some number. -/
def IsNumeral (text : List Char) : Prop := ∃ part, NumberPart.Reads text part ∧ part.final = true

variable {text kept : List Char}

theorem isNumeral_of_numeral? (h : numeral? text = some kept) : IsNumeral kept := by
  cases text with
  | nil => cases h
  | cons c rest =>
    rw [numeral?] at h
    cases henter : NumberPart.enter c with
    | none => simp [henter] at h
    | some s =>
      obtain ⟨added, part⟩ := s
      simp only [henter] at h
      obtain ⟨more, hmore, rfl⟩ := Option.map_eq_some_iff.1 h
      exact (NumberPart.reads_of_enter henter).2.rest? hmore

/-- Numerals are the texts that are kept as they are. -/
theorem isNumeral_iff : IsNumeral text ↔ numeral? text = some text := by
  refine ⟨fun h => ?_, isNumeral_of_numeral?⟩
  obtain ⟨part, hread, hfinal⟩ := h
  have hkept := hread.numeral?_append []
  rwa [List.append_nil, NumberPart.rest?, if_pos hfinal, Option.map_some, List.append_nil] at hkept

/-- Members stand for the object that has them, or are one that writes a number. -/
theorem ofMembers?_cases {members : List (String × Json)} {j : Json}
    (h : ofMembers? members = some j) : j = object members ∨
      ∃ text kept, members = [(numberKey, string text)] ∧ numeral? text.toList = some kept ∧
        j = number (String.ofList kept) := by
  unfold ofMembers? at h
  split at h
  · cases h
    exact .inl rfl
  · split at h
    · next hkey =>
      subst hkey
      split at h
      · next text =>
        obtain ⟨kept, hkept, rfl⟩ := Option.map_eq_some_iff.1 h
        exact .inr ⟨text, kept, rfl, hkept, rfl⟩
      · cases h
    · cases h
      exact .inl rfl

end ApiCli.Json

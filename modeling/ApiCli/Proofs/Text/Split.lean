import ApiCli.Text.Split

/-!
# Parts of a text

No part that a text is split into has the separator in it, and a text without the separator is
its own only part. So splitting the parts again changes nothing.
-/

namespace ApiCli.Text

theorem splitChars_ne_nil (separator : Char) (s : List Char) : splitChars separator s ≠ [] := by
  cases s with
  | nil => simp [splitChars]
  | cons c rest =>
    unfold splitChars
    split
    · simp
    · split <;> simp

theorem splitChars_cons_of_ne {separator c : Char} (h : c ≠ separator) (rest : List Char) :
    ∃ part parts, splitChars separator rest = part :: parts ∧
      splitChars separator (c :: rest) = (c :: part) :: parts := by
  rw [splitChars, if_neg h]
  cases hrest : splitChars separator rest with
  | nil => exact absurd hrest (splitChars_ne_nil separator rest)
  | cons part parts => exact ⟨part, parts, rfl, rfl⟩

theorem splitChars_of_notMem {separator : Char} {s : List Char} (h : separator ∉ s) :
    splitChars separator s = [s] := by
  induction s with
  | nil => rfl
  | cons c rest ih =>
    obtain ⟨hc, hrest⟩ := List.ne_and_not_mem_of_not_mem_cons h
    obtain ⟨part, parts, hparts, heq⟩ := splitChars_cons_of_ne (Ne.symm hc) rest
    rw [ih hrest] at hparts
    cases hparts
    exact heq

theorem splitChars_append (separator : Char) (s rest : List Char) :
    splitChars separator (s ++ separator :: rest) =
      splitChars separator s ++ splitChars separator rest := by
  induction s with
  | nil => simp [splitChars]
  | cons c s ih =>
    by_cases hc : c = separator
    · rw [List.cons_append, splitChars, if_pos hc, ih, splitChars, if_pos hc, List.cons_append]
    · obtain ⟨part, parts, hparts, heq⟩ := splitChars_cons_of_ne hc s
      rw [List.cons_append, splitChars, if_neg hc, ih, hparts, heq]
      rfl

theorem notMem_of_mem_splitChars {separator : Char} {s : List Char} :
    ∀ part ∈ splitChars separator s, separator ∉ part := by
  induction s with
  | nil => simp [splitChars]
  | cons c rest ih =>
    by_cases hc : c = separator
    · rw [splitChars, if_pos hc]
      simpa using ih
    · obtain ⟨part, parts, hparts, heq⟩ := splitChars_cons_of_ne hc rest
      rw [hparts] at ih
      rw [heq]
      simp only [List.mem_cons, forall_eq_or_imp] at ih ⊢
      exact ⟨by simp [Ne.symm hc, ih.1], ih.2⟩

theorem eq_of_splitChars_singleton {separator : Char} {s part : List Char}
    (h : splitChars separator s = [part]) : part = s := by
  induction s generalizing part with
  | nil => simpa [splitChars] using h.symm
  | cons c rest ih =>
    by_cases hc : c = separator
    · rw [splitChars, if_pos hc] at h
      exact absurd (List.cons.inj h).2 (splitChars_ne_nil separator rest)
    · obtain ⟨part', parts, hparts, heq⟩ := splitChars_cons_of_ne hc rest
      rw [heq] at h
      obtain ⟨rfl, rfl⟩ := List.cons.inj h
      rw [ih hparts]

theorem splitOn_ne_nil (separator : Char) (s : String) : splitOn separator s ≠ [] := by
  simp [splitOn, splitChars_ne_nil]

/-- Splitting once more gives the same parts. -/
theorem flatMap_splitOn (separator : Char) (s : String) :
    (splitOn separator s).flatMap (splitOn separator) = splitOn separator s := by
  have hparts : ∀ part ∈ splitOn separator s, splitOn separator part = [part] := by
    intro part hpart
    obtain ⟨chars, hchars, rfl⟩ := List.mem_map.1 hpart
    rw [splitOn, String.toList_ofList, splitChars_of_notMem (notMem_of_mem_splitChars _ hchars)]
    rfl
  generalize splitOn separator s = parts at hparts
  induction parts with
  | nil => rfl
  | cons part parts ih =>
    rw [List.flatMap_cons, hparts part List.mem_cons_self,
      ih fun q hq => hparts q (List.mem_cons_of_mem _ hq)]
    rfl

theorem splitOn_of_notMem {separator : Char} {s : String} (h : separator ∉ s.toList) :
    splitOn separator s = [s] := by
  rw [splitOn, splitChars_of_notMem h, List.map_singleton, String.ofList_toList]

/-- Parts that are put together with commas are split again. -/
theorem splitOn_intercalate {parts : List String} (hne : parts ≠ [])
    (h : ∀ part ∈ parts, ',' ∉ part.toList) : splitOn ',' (",".intercalate parts) = parts := by
  induction parts with
  | nil => exact absurd rfl hne
  | cons part parts ih =>
    obtain ⟨hpart, hparts⟩ := List.forall_mem_cons.1 h
    cases parts with
    | nil => rw [String.intercalate_singleton, splitOn_of_notMem hpart]
    | cons next parts =>
      have htext : (",".intercalate (part :: next :: parts)).toList =
          part.toList ++ ',' :: (",".intercalate (next :: parts)).toList := by
        simp
      have hrest : splitOn ',' (",".intercalate (next :: parts)) = next :: parts :=
        ih (List.cons_ne_nil _ _) hparts
      rw [splitOn, htext, splitChars_append, splitChars_of_notMem hpart, List.map_append]
      rw [splitOn] at hrest
      rw [hrest, List.map_singleton, String.ofList_toList, List.singleton_append]

/-- A text with a single part is that part. -/
theorem eq_of_splitOn_singleton {separator : Char} {s part : String}
    (h : splitOn separator s = [part]) : part = s := by
  obtain ⟨chars, hchars, rfl⟩ := List.map_eq_singleton_iff.1 h
  rw [eq_of_splitChars_singleton hchars, String.ofList_toList]

theorem fst_breakAt (separator : Char) (s : List Char) :
    (breakAt separator s).1 = s.takeWhile (· ≠ separator) := by
  induction s with
  | nil => rfl
  | cons c s ih =>
    unfold breakAt
    split
    · next hc => rw [List.takeWhile_cons_of_neg (by simpa using hc)]
    · next hc => rw [List.takeWhile_cons_of_pos (by simpa using hc), ← ih]

theorem breakAt_append {separator : Char} {s : List Char} (h : separator ∉ s) (rest : List Char) :
    breakAt separator (s ++ separator :: rest) = (s, some rest) := by
  induction s with
  | nil => simp [breakAt]
  | cons c s ih =>
    obtain ⟨hc, hs⟩ := List.ne_and_not_mem_of_not_mem_cons h
    rw [List.cons_append, breakAt, if_neg (Ne.symm hc), ih hs]

theorem eq_of_breakAt_none {separator : Char} {s before : List Char}
    (h : breakAt separator s = (before, none)) : before = s := by
  induction s generalizing before with
  | nil => exact (congrArg Prod.fst h).symm
  | cons c s ih =>
    rw [breakAt] at h
    split at h
    · cases h
    · cases hs : breakAt separator s with
      | mk first after =>
        rw [hs] at h
        cases h
        rw [ih hs]

theorem eq_of_breakAt_some {separator : Char} {s before after : List Char}
    (h : breakAt separator s = (before, some after)) :
    s = before ++ separator :: after ∧ separator ∉ before := by
  induction s generalizing before with
  | nil => cases h
  | cons c s ih =>
    rw [breakAt] at h
    split at h
    · next hc =>
      cases h
      exact ⟨by rw [hc, List.nil_append], List.not_mem_nil⟩
    · next hc =>
      cases hs : breakAt separator s with
      | mk first rest =>
        rw [hs] at h
        cases h
        obtain ⟨rfl, hnotMem⟩ := ih hs
        exact ⟨rfl, List.not_mem_cons_of_ne_of_not_mem (Ne.symm hc) hnotMem⟩

end ApiCli.Text

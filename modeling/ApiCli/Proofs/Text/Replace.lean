import ApiCli.Text.Replace

/-!
# Replacing step by step

How a replacement passes over a text: an occurrence of the pattern is replaced, a text that the
first character of the pattern is not in stays as it is.
-/

namespace ApiCli.Text

variable {pattern replacement rest text : List Char} {c : Char}

theorem replaceAfter_skip (pattern replacement text rest : List Char) :
    replaceAfter pattern replacement text.length (text ++ rest) =
      replaceAfter pattern replacement 0 rest := by
  induction text with
  | nil => rfl
  | cons c text ih => exact ih

theorem replaceAfter_of_not_prefix (h : ¬pattern <+: c :: rest) :
    replaceAfter pattern replacement 0 (c :: rest) =
      c :: replaceAfter pattern replacement 0 rest := by
  rw [replaceAfter, if_neg (by simpa using h)]

/-- An occurrence is replaced, and the rest is looked at after it. -/
theorem replaceAfter_pattern (c : Char) (pattern replacement rest : List Char) :
    replaceAfter (c :: pattern) replacement 0 ((c :: pattern) ++ rest) =
      replacement ++ replaceAfter (c :: pattern) replacement 0 rest := by
  rw [List.cons_append, replaceAfter, if_pos (by simp)]
  exact congrArg _ (replaceAfter_skip (c :: pattern) replacement pattern rest)

/-- A text without the first character of the pattern stays. -/
theorem replaceAfter_append_of_notMem (h : c ∉ text) :
    replaceAfter (c :: pattern) replacement 0 (text ++ rest) =
      text ++ replaceAfter (c :: pattern) replacement 0 rest := by
  induction text with
  | nil => rfl
  | cons d text ih =>
    obtain ⟨hd, htext⟩ := List.ne_and_not_mem_of_not_mem_cons h
    have hprefix : ¬c :: pattern <+: d :: (text ++ rest) := fun hp =>
      hd (List.cons_prefix_cons.1 hp).1
    rw [List.cons_append, replaceAfter_of_not_prefix hprefix, ih htext]
    rfl

end ApiCli.Text

import ApiCli.Text.Normalize

/-!
# Texts in normal form

ASCII has no parts, does not attach to the character before it and does not compose with it.

`normalize_concat`: a character of ASCII at the end of a text is at the end of its normal form.
-/

namespace ApiCli.Text

variable {c : Char} (h : c.toNat < 128)
include h

theorem combiningClass_ascii : combiningClass c = 0 := if_pos h

theorem compose?_ascii (a : Char) : compose? a c = none := if_pos h

theorem parts?_ascii : parts? c = none := if_pos h

theorem partsTo_ascii (depth : Nat) : partsTo depth c = [c] := by
  cases depth with
  | zero => rfl
  | succ depth => rw [partsTo, parts?_ascii h]

theorem decompose_concat (s : List Char) : decompose (s ++ [c]) = decompose s ++ [c] := by
  rw [decompose, List.flatMap_append, List.flatMap_singleton, partsTo_ascii h]
  rfl

/-- No mark gets behind a character that is none. -/
theorem insertMark_concat (mark : Char) (s : List Char) :
    insertMark mark (s ++ [c]) = insertMark mark s ++ [c] := by
  induction s with
  | nil => simp [insertMark, combiningClass_ascii h]
  | cons d s ih =>
    rw [List.cons_append, insertMark, insertMark, ih]
    split <;> rfl

theorem orderMarks_concat (s : List Char) : orderMarks (s ++ [c]) = orderMarks s ++ [c] := by
  induction s with
  | nil => rfl
  | cons d s ih =>
    change insertMark d (orderMarks (s ++ [c])) = insertMark d (orderMarks s) ++ [c]
    rw [ih, insertMark_concat h]

/-- Whatever is being composed is finished in front of the character. -/
theorem composeAfter_concat (starter : Char) (skipped s : List Char) :
    composeAfter starter skipped (s ++ [c]) = composeAfter starter skipped s ++ [c] := by
  induction s generalizing starter skipped with
  | nil => simp [composeAfter, compose?_ascii h, combiningClass_ascii h]
  | cons d s ih =>
    rw [List.cons_append, composeAfter, composeAfter]
    split
    · exact ih _ _
    · split
      · rw [ih, List.append_assoc]
      · exact ih _ _

theorem compose_concat (s : List Char) : compose (s ++ [c]) = compose s ++ [c] := by
  induction s with
  | nil => simp [compose, composeAfter, combiningClass_ascii h]
  | cons d s ih =>
    rw [List.cons_append, compose, compose]
    split
    · exact composeAfter_concat h _ _ _
    · rw [ih, List.cons_append]

theorem normalize_concat (s : List Char) : normalize (s ++ [c]) = normalize s ++ [c] := by
  have hall : ((s ++ [c]).all fun d => d.toNat < 128) = s.all fun d => d.toNat < 128 := by
    simp [h]
  unfold normalize
  rw [hall, decompose_concat h, orderMarks_concat h, compose_concat h]
  split <;> rfl

end ApiCli.Text

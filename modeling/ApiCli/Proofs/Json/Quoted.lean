import ApiCli.Json.Written
import Mathlib.Tactic.SplitIfs

/-!
# Strings in JSON texts

What is written between quotes is read as the string that it was written for.

* `Escaped` lists the ways in which a character can stand between quotes.
* `unescape?_flatMap_escape`: unescaping undoes escaping.
-/

namespace ApiCli.Json

/-- How a character stands between quotes. -/
inductive Escaped (c : Char) : List Char → Prop
  /-- By a letter or sign after a backslash. -/
  | short : letter ≠ 'u' → unescapeChar? letter = some c → Escaped c ['\\', letter]
  /-- A control character, by its code in hexadecimal digits. -/
  | code : c.toNat < 32 → Escaped c
      ['\\', 'u', '0', '0', Text.lowerHexDigit (c.toNat / 16), Text.lowerHexDigit (c.toNat % 16)]
  /-- As it is. -/
  | plain : c ≠ '"' → c ≠ '\\' → ¬c < ' ' → Escaped c [c]

theorem escaped_escape (c : Char) : Escaped c (escape c) := by
  unfold escape
  split_ifs with hquote hbackslash _ _ _ _ _ hcontrol
  -- All cases but the last two have a short escape.
  any_goals
    subst c
    exact .short (by decide) rfl
  · exact .code hcontrol
  · exact .plain hquote hbackslash hcontrol

/-! ## Unescaping -/

theorem unescape?_of_ne {c : Char} (h : c ≠ '\\') (rest : List Char) :
    unescape? (c :: rest) = (unescape? rest).map (c :: ·) := by
  rw [unescape?] <;> simp [h]

theorem unescape?_backslash {letter c : Char} (hletter : letter ≠ 'u')
    (h : unescapeChar? letter = some c) (rest : List Char) :
    unescape? ('\\' :: letter :: rest) = (unescape? rest).map (c :: ·) := by
  rw [unescape?, h]
  simp [hletter]

theorem digits?_lowerHexDigit : ∀ n < 32, Text.digits? 16
    ['0', '0', Text.lowerHexDigit (n / 16), Text.lowerHexDigit (n % 16)] = some n := by
  decide

theorem unescape?_code {n : Nat} (h : n < 32) (rest : List Char) :
    unescape? ('\\' :: 'u' :: '0' :: '0' :: Text.lowerHexDigit (n / 16) ::
        Text.lowerHexDigit (n % 16) :: rest) =
      (unescape? rest).map (Char.ofNat n :: ·) := by
  have hhigh : isHighSurrogate n = false := by
    simp only [isHighSurrogate, Bool.and_eq_false_iff, decide_eq_false_iff_not]
    omega
  have hlow : isLowSurrogate n = false := by
    simp only [isLowSurrogate, Bool.and_eq_false_iff, decide_eq_false_iff_not]
    omega
  rw [unescape?, digits?_lowerHexDigit n h]
  simp [hhigh, hlow]

theorem unescape?_escape (c : Char) (rest : List Char) :
    unescape? (escape c ++ rest) = (unescape? rest).map (c :: ·) := by
  have hescaped := escaped_escape c
  generalize escape c = text at hescaped ⊢
  cases hescaped with
  | short hletter h => exact unescape?_backslash hletter h rest
  | code h =>
    refine (unescape?_code h rest).trans ?_
    rw [Char.ofNat_toNat]
  | plain _ hbackslash _ => exact unescape?_of_ne hbackslash rest

theorem unescape?_flatMap_escape (s : List Char) : unescape? (s.flatMap escape) = some s := by
  induction s with
  | nil => rfl
  | cons c s ih => rw [List.flatMap_cons, unescape?_escape, ih, Option.map_some]

theorem unquote?_escape (s : String) : unquote? (s.toList.flatMap escape) = some s := by
  rw [unquote?, unescape?_flatMap_escape, Option.map_some, String.ofList_toList]

end ApiCli.Json

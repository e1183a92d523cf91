import ApiCli.Text.Kebab
import ApiCli.Proofs.Text.Case

/-!
# Kebab case of parts

A separator has no case (`caseless_of_isSeparator`), and no word that needs a hyphen begins behind one
(`not_isSeparator_of_startsWord`). What is not lowercase does not decide whether the character before
it begins a word.

* `kebabAfter_append`: a name that goes on with such a character is written as if it ended there,
  and then goes on.
* `kebab_lt_append_brace`: the kebab case of a name that goes on after a closing brace is the greater
  one.
-/

namespace ApiCli.Text

variable {before : Option Char} {p c d : Char} {after : Option Char} {text rest : List Char}

/-! ## Beginnings of words -/

/-- A character of ASCII before the small letters that is neither letter nor digit. -/
structure Caseless (c : Char) : Prop where
  not_isUppercase : isUppercase c = false
  not_isLowercase : isLowercase c = false
  not_isDigit : c.isDigit = false
  toLowercase_eq : toLowercase c = [c]
  lt : c.toNat < 'a'.toNat

theorem caseless_of_isSeparator (h : isSeparator c = true) : Caseless c := by
  have hc : c = '-' ∨ c = '_' := by simpa [isSeparator] using h
  rcases hc with rfl | rfl <;> constructor <;> decide +kernel

theorem isUppercase_of_startsWord (h : startsWord before c after = true) :
    isUppercase c = true := by
  cases before with
  | none => cases h
  | some p => exact (Bool.and_eq_true_iff.1 h).1

theorem not_isSeparator_of_startsWord (h : startsWord (some p) c after = true) :
    isSeparator p = false := by
  refine Bool.eq_false_iff.2 fun hp => ?_
  have hcaseless := caseless_of_isSeparator hp
  simp [startsWord, hcaseless.not_isLowercase, hcaseless.not_isDigit, hp] at h

theorem startsWord_eq_false (h : isUppercase c = false) : startsWord before c after = false :=
  Bool.eq_false_iff.2 fun hword => Bool.false_ne_true (h.symm.trans (isUppercase_of_startsWord hword))

theorem startsWord_head?_append (hd : isLowercase d = false) :
    startsWord before c (text ++ d :: rest).head? = startsWord before c text.head? := by
  cases text with
  | nil => cases before <;> simp [startsWord, hd]
  | cons _ _ => rfl

/-! ## Names that go on -/

theorem getLast?_cons_or (before : Option Char) (c : Char) (text : List Char) :
    (c :: text).getLast?.or before = text.getLast?.or (some c) := by
  cases text <;> simp [List.getLast?_cons]

theorem kebabAfter_append (hd : isLowercase d = false) (before : Option Char) (text : List Char) :
    kebabAfter before (text ++ d :: rest) =
      kebabAfter before text ++ kebabAfter (text.getLast?.or before) (d :: rest) := by
  induction text generalizing before with
  | nil => rfl
  | cons c text ih =>
    rw [List.cons_append, kebabAfter, kebabAfter, startsWord_head?_append hd, ih, getLast?_cons_or]
    simp only [List.append_assoc]

theorem kebabAfter_eq_nil_iff : kebabAfter before text = [] ↔ text = [] := by
  cases text with
  | nil => exact iff_of_true rfl rfl
  | cons c text => simp [kebabAfter, toLowercase_ne_nil]

theorem lt_append_of_ne_nil (s : List Char) {t : List Char} (h : t ≠ []) : s < s ++ t := by
  induction s with
  | nil =>
    cases t with
    | nil => exact absurd rfl h
    | cons c t => exact .nil
  | cons c s ih => exact .cons ih

theorem kebab_lt_append_brace (name rest : String) :
    kebab name < kebab (name ++ "\x7d" ++ rest) := by
  have hlower : isLowercase '\x7d' = false := by decide +kernel
  have htext : (name ++ "\x7d" ++ rest).toList = name.toList ++ '\x7d' :: rest.toList := by
    simp
  rw [kebab, kebab, String.lt_iff, String.toList_ofList, String.toList_ofList, htext,
    kebabAfter_append hlower]
  exact lt_append_of_ne_nil _ (mt kebabAfter_eq_nil_iff.1 (List.cons_ne_nil _ _))

end ApiCli.Text

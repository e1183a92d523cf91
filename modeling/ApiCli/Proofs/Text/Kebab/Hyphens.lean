import ApiCli.Proofs.Text.Kebab

/-!
# Hyphens of kebab case

Where the hyphens of a name in kebab case come from.

* `Kept before text a x b`: the character `x` of the text is written between `a` and `b`.
* `Inserted before text a b`: a hyphen is put between `a` and `b`, in front of a capital that follows
  something else than a separator.
* `kept_or_inserted`: every separator of the result is one or the other.

**Only case and hyphens** (`kebab_only_separates`): without hyphens, a name in kebab case is the
lowercased name. Hyphens are inserted within the name and beside no separator.
-/

namespace ApiCli.Text

variable {before : Option Char} {x y : Char} {text a b : List Char}

def withoutHyphens (text : List Char) : List Char := text.filter (· ≠ '-')

/-- What is written in the place of the character `x` of the text that follows `before` is `x` itself.
It stands between `a` and `b`. -/
def Kept (before : Option Char) (text a : List Char) (x : Char) (b : List Char) : Prop :=
  ∃ done rest, text = done ++ x :: rest ∧ a = kebabAfter before done ∧
    b = kebabAfter (some x) rest

/-- A hyphen comes between `a` and `b`, directly before the lowercase form of a capital, and what
precedes the capital is no separator. -/
def Inserted (before : Option Char) (text a b : List Char) : Prop :=
  ∃ done c rest, text = done ++ c :: rest ∧ isUppercase c = true ∧
    (∃ p ∈ done.getLast?.or before, isSeparator p = false) ∧
    a = kebabAfter before done ∧ b = toLowercase c ++ kebabAfter (some c) rest

theorem withoutHyphens_append (s t : List Char) :
    withoutHyphens (s ++ t) = withoutHyphens s ++ withoutHyphens t := List.filter_append ..

theorem withoutHyphens_kebabAfter (before : Option Char) (text : List Char) :
    withoutHyphens (kebabAfter before text) = withoutHyphens (text.flatMap toLowercase) := by
  induction text generalizing before with
  | nil => rfl
  | cons c text ih =>
    have hhyphen : withoutHyphens (if startsWord before c text.head? then ['-'] else []) = [] := by
      split <;> rfl
    rw [kebabAfter, List.flatMap_cons, withoutHyphens_append, withoutHyphens_append,
      withoutHyphens_append, hhyphen, ih, List.nil_append]

/-! ## Where separators come from -/

/-- A place in two texts that follow each other is in one of them. -/
theorem exists_of_append_eq_append_cons {s t : List Char} (h : s ++ t = a ++ x :: b) :
    (∃ s', s = a ++ x :: s' ∧ b = s' ++ t) ∨ ∃ a', a = s ++ a' ∧ t = a' ++ x :: b := by
  rcases List.append_eq_append_iff.1 h with ⟨a', ha, ht⟩ | ⟨s', hs, hb⟩
  · exact .inr ⟨a', ha, ht⟩
  · cases s' with
    | nil => exact .inr ⟨[], by simpa using hs.symm, by simpa using hb.symm⟩
    | cons y s' =>
      obtain ⟨rfl, rfl⟩ := List.cons.inj hb
      exact .inl ⟨s', hs, rfl⟩

/-- What is written before a place further on in the text. -/
theorem append_kebabAfter_cons {c d : Char} {done rest : List Char} (hd : isLowercase d = false) :
    (if startsWord before c (done ++ d :: rest).head? then ['-'] else []) ++
      (toLowercase c ++ kebabAfter (some c) done) = kebabAfter before (c :: done) := by
  rw [startsWord_head?_append hd, kebabAfter]

/-- A separator of the result is the hyphen before the first character, that character, or something
behind it. -/
theorem kebabAfter_cons_cases {c : Char} {rest : List Char} (hx : isSeparator x = true)
    (h : kebabAfter before (c :: rest) = a ++ x :: b) :
    (a = [] ∧ x = '-' ∧ startsWord before c rest.head? = true ∧
        b = toLowercase c ++ kebabAfter (some c) rest) ∨
      (a = [] ∧ c = x ∧ b = kebabAfter (some c) rest) ∨
      ∃ a', kebabAfter (some c) rest = a' ++ x :: b ∧
        a = (if startsWord before c rest.head? then ['-'] else []) ++ (toLowercase c ++ a') := by
  rw [kebabAfter] at h
  rcases exists_of_append_eq_append_cons h with ⟨s', hhyphen, hb⟩ | ⟨a', ha, hrest⟩
  · split at hhyphen
    · next hword =>
      obtain ⟨rfl, rfl, rfl⟩ : a = [] ∧ x = '-' ∧ s' = [] := by
        simpa [List.singleton_eq_append_iff] using hhyphen
      exact .inl ⟨rfl, rfl, hword, hb⟩
    · cases a <;> cases hhyphen
  · rcases exists_of_append_eq_append_cons hrest with ⟨s', hform, hb⟩ | ⟨a'', ha', hbehind⟩
    · obtain rfl := eq_of_mem_toLowercase (hform ▸ List.mem_append_right _ List.mem_cons_self)
        (caseless_of_isSeparator hx).lt
      have hcaseless := caseless_of_isSeparator hx
      rw [hcaseless.toLowercase_eq] at hform
      obtain ⟨rfl, rfl⟩ : a' = [] ∧ s' = [] := by
        simpa [List.singleton_eq_append_iff] using hform
      rw [startsWord_eq_false hcaseless.not_isUppercase] at ha
      exact .inr (.inl ⟨ha, rfl, hb⟩)
    · exact .inr (.inr ⟨a'', hbehind, ha' ▸ ha⟩)

/-- Every separator of the result is one of the text or an inserted hyphen. -/
theorem kept_or_inserted (hx : isSeparator x = true) (h : kebabAfter before text = a ++ x :: b) :
    Kept before text a x b ∨ x = '-' ∧ Inserted before text a b := by
  induction text generalizing before a with
  | nil => cases a <;> cases h
  | cons c rest ih =>
    rcases kebabAfter_cons_cases hx h with ⟨rfl, rfl, hword, hb⟩ | ⟨rfl, rfl, hb⟩ | ⟨a', hrest, rfl⟩
    · refine .inr ⟨rfl, [], c, rest, rfl, isUppercase_of_startsWord hword, ?_, rfl, hb⟩
      cases before with
      | none => cases hword
      | some p => exact ⟨p, rfl, not_isSeparator_of_startsWord hword⟩
    · exact .inl ⟨[], rest, rfl, rfl, hb⟩
    · rcases ih hrest with ⟨done, after, rfl, rfl, hb⟩ | ⟨hx', done, d, after, rfl, hd, hp, rfl, hb⟩
      · exact .inl ⟨c :: done, after, rfl,
          append_kebabAfter_cons (caseless_of_isSeparator hx).not_isLowercase, hb⟩
      · refine .inr ⟨hx', c :: done, d, after, rfl, hd, ?_,
          append_kebabAfter_cons (not_isLowercase_of_isUppercase hd), hb⟩
        rwa [getLast?_cons_or]

/-! ## Separators at the ends and beside each other -/

theorem eq_cons_of_kebabAfter_eq_cons (hx : isSeparator x = true)
    (hbefore : ∀ p ∈ before, isSeparator p = true) (h : kebabAfter before text = x :: b) :
    ∃ rest, text = x :: rest ∧ b = kebabAfter (some x) rest := by
  rcases kept_or_inserted (a := []) hx h with
    ⟨done, rest, rfl, hdone, hb⟩ | ⟨-, done, c, rest, -, -, ⟨p, hp, hsep⟩, hdone, -⟩
  · obtain rfl := kebabAfter_eq_nil_iff.1 hdone.symm
    exact ⟨rest, rfl, hb⟩
  · obtain rfl := kebabAfter_eq_nil_iff.1 hdone.symm
    exact absurd (hbefore p hp) (by simp [hsep])

theorem eq_concat_of_kebabAfter_eq_concat (hx : isSeparator x = true)
    (h : kebabAfter before text = a ++ [x]) :
    ∃ done, text = done ++ [x] ∧ a = kebabAfter before done := by
  rcases kept_or_inserted (b := []) hx h with
    ⟨done, rest, rfl, ha, hb⟩ | ⟨-, done, c, rest, -, -, -, -, hb⟩
  · obtain rfl := kebabAfter_eq_nil_iff.1 hb.symm
    exact ⟨done, rfl, ha⟩
  · exact absurd (List.append_eq_nil_iff.1 hb.symm).1 (toLowercase_ne_nil c)

theorem eq_append_of_kebabAfter_eq_append (hx : isSeparator x = true) (hy : isSeparator y = true)
    (h : kebabAfter before text = a ++ x :: y :: b) :
    ∃ done rest, text = done ++ x :: y :: rest ∧ a = kebabAfter before done ∧
      b = kebabAfter (some y) rest := by
  rcases kept_or_inserted hx h with
    ⟨done, rest, rfl, ha, hb⟩ | ⟨-, done, c, rest, -, hc, -, -, hb⟩
  · obtain ⟨behind, rfl, hbehind⟩ := eq_cons_of_kebabAfter_eq_cons hy
      (fun p hp => Option.some.inj hp ▸ hx) hb.symm
    exact ⟨done, behind, rfl, ha, hbehind⟩
  · -- No separator is the form of a capital.
    cases hform : toLowercase c with
    | nil => exact absurd hform (toLowercase_ne_nil c)
    | cons d form =>
      rw [hform, List.cons_append] at hb
      obtain ⟨rfl, -⟩ := List.cons.inj hb
      have hcaseless := caseless_of_isSeparator hy
      obtain rfl := eq_of_mem_toLowercase (hform ▸ List.mem_cons_self) hcaseless.lt
      exact absurd (hcaseless.not_isUppercase.symm.trans hc) Bool.false_ne_true

/-! ## Whole names -/

theorem toList_kebab (s : String) : (kebab s).toList = kebabAfter none s.toList :=
  String.toList_ofList

/-- Kebab case changes a name in letter case and by hyphens only. A hyphen of the result is one of the
name, or it is inserted within the name, directly before the lowercase form of a capital that follows
something else than a separator. Separators at an end or beside each other are those of the name. -/
theorem kebab_only_separates (s : String) :
    withoutHyphens (kebab s).toList = withoutHyphens (s.toList.flatMap toLowercase) ∧
      (∀ t, kebab s = kebab t → withoutHyphens (s.toList.flatMap toLowercase) =
        withoutHyphens (t.toList.flatMap toLowercase)) ∧
      (∀ a b, (kebab s).toList = a ++ '-' :: b →
        Kept none s.toList a '-' b ∨
          a ≠ [] ∧ b ≠ [] ∧ ∃ done p c rest, s.toList = done ++ p :: c :: rest ∧
            isUppercase c = true ∧ isSeparator p = false ∧
            a = kebabAfter none (done ++ [p]) ∧ b = toLowercase c ++ kebabAfter (some c) rest) ∧
      (∀ x b, (kebab s).toList = x :: b → isSeparator x = true → ∃ rest, s.toList = x :: rest) ∧
      (∀ a x, (kebab s).toList = a ++ [x] → isSeparator x = true →
        ∃ done, s.toList = done ++ [x] ∧ a = kebabAfter none done) ∧
      ∀ a x y b, (kebab s).toList = a ++ x :: y :: b → isSeparator x = true →
        isSeparator y = true → ∃ done rest, s.toList = done ++ x :: y :: rest ∧
          a = kebabAfter none done ∧ b = kebabAfter (some y) rest := by
  have hbare (s : String) : withoutHyphens (kebab s).toList =
      withoutHyphens (s.toList.flatMap toLowercase) := by
    rw [toList_kebab, withoutHyphens_kebabAfter]
  rw [toList_kebab]
  refine ⟨withoutHyphens_kebabAfter none _, fun t ht => ?_, fun a b h => ?_, fun x b h hx => ?_,
    fun a x h hx => ?_, fun a x y b h hx hy => ?_⟩
  · rw [← hbare, ← hbare, ht]
  · rcases kept_or_inserted rfl h with hkept | ⟨-, done, c, rest, htext, hc, ⟨p, hp, hsep⟩, ha, hb⟩
    · exact .inl hkept
    · rw [Option.or_none] at hp
      obtain ⟨done, rfl⟩ := List.getLast?_eq_some_iff.1 hp
      refine .inr ⟨?_, ?_, done, p, c, rest, ?_, hc, hsep, ha, hb⟩
      · rw [ha, Ne, kebabAfter_eq_nil_iff]
        simp
      · rw [hb]
        simp [toLowercase_ne_nil]
      · simpa using htext
  · obtain ⟨rest, hrest, -⟩ := eq_cons_of_kebabAfter_eq_cons hx (by simp) h
    exact ⟨rest, hrest⟩
  · exact eq_concat_of_kebabAfter_eq_concat hx h
  · exact eq_append_of_kebabAfter_eq_append hx hy h

/-- The hyphen stands before the capital that begins the last word. The underscore is kept and gets
no hyphen beside it. -/
example : kebab "dry_RUNNow" = "dry_run-now" := by decide +kernel

end ApiCli.Text

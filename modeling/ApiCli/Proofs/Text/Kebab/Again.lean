import ApiCli.Proofs.Text.Kebab

/-!
# Kebab case of names in kebab case

Writing a name in kebab case once more lowercases nothing. It puts a hyphen before a capital that
has no lowercase form, if lowercasing its neighbours makes it the beginning of a word.

* `BeginsWordLater p c after`: the capital `c` is such a one.
* `kebabAfter_kebabAfter_cons` is one character of the second run, and `kebabAfter_kebabAfter_iff` the
  whole. The invariant is what stands before: `written before` is the last character that the first
  run has written for `before`.

**Stability** (`kebab_kebab_eq_iff`): a name in kebab case stays as it is if and only if the name holds
no such capital. A second time always is enough.
-/

namespace ApiCli.Text

variable {before : Option Char} {p c d : Char} {text after more : List Char}

/-- The capital `c` between `p` and `after` has no lowercase form and begins no word. But what is
written for `p` ends in lowercase, or what is written behind `c` begins in lowercase, so `c` begins a
word of the written name. -/
def BeginsWordLater (p c : Char) (after : List Char) : Prop :=
  isUppercase c = true ∧ toLowercase c = [c] ∧ startsWord (some p) c after.head? = false ∧
    ((toLowercase p).getLast?.any isLowercase = true ∨
      isSeparator p = false ∧ ∃ d rest, after = d :: rest ∧
        startsWord (some c) d rest.head? = false ∧ (toLowercase d).head?.any isLowercase = true)

/-- The last character that is written for a character. -/
def written (before : Option Char) : Option Char := before.bind fun p => (toLowercase p).getLast?

/-! ## One character -/

theorem kebabAfter_of_folded {form : List Char} (h : ∀ d ∈ form, IsFolded d)
    (before : Option Char) :
    kebabAfter before (form ++ more) = form ++ kebabAfter (form.getLast?.or before) more := by
  induction form generalizing before with
  | nil => rfl
  | cons d form ih =>
    obtain ⟨hd, hform⟩ := List.forall_mem_cons.1 h
    rw [List.cons_append, kebabAfter, startsWord_eq_false hd.not_isUppercase, hd.toLowercase_eq,
      ih hform, getLast?_cons_or]
    rfl

/-- A lowercase form is written as it is. Only a capital without one gets a hyphen. -/
theorem kebabAfter_toLowercase (before : Option Char) (c : Char) (more : List Char) :
    kebabAfter before (toLowercase c ++ more) =
      (if toLowercase c = [c] ∧ startsWord before c more.head? = true then ['-'] else []) ++
        (toLowercase c ++ kebabAfter (toLowercase c).getLast? more) := by
  by_cases hself : toLowercase c = [c]
  · rw [hself, List.singleton_append, kebabAfter, hself]
    simp
  · obtain ⟨hne, hfolded⟩ := (toLowercase_cases c).resolve_left hself
    rw [kebabAfter_of_folded hfolded, if_neg fun h => hself h.1, List.nil_append]
    cases hlast : (toLowercase c).getLast? with
    | none => exact absurd (List.getLast?_eq_none_iff.1 hlast) hne
    | some l => rfl

/-- The first run puts no hyphen before `c`, but the second run does. -/
def GetsHyphenLater (before : Option Char) (c : Char) (rest : List Char) : Prop :=
  toLowercase c = [c] ∧ startsWord before c rest.head? = false ∧
    startsWord (written before) c (kebabAfter (some c) rest).head? = true

/-- The second run leaves what the first one has written for a character and the rest, if it puts no
hyphen before the character and leaves what is written for the rest. -/
theorem kebabAfter_kebabAfter_cons (before : Option Char) (c : Char) (rest : List Char) :
    kebabAfter (written before) (kebabAfter before (c :: rest)) = kebabAfter before (c :: rest) ↔
      ¬GetsHyphenLater before c rest ∧
        kebabAfter (written (some c)) (kebabAfter (some c) rest) = kebabAfter (some c) rest := by
  have hhyphen : Caseless '-' := caseless_of_isSeparator rfl
  have hlast : written (some c) = (toLowercase c).getLast? := rfl
  rw [kebabAfter, hlast]
  by_cases hword : startsWord before c rest.head? = true
  · have hafter (next : Option Char) : startsWord (some '-') c next = false :=
      Bool.eq_false_iff.2 fun h => Bool.false_ne_true (not_isSeparator_of_startsWord h).symm
    have hgets : ¬GetsHyphenLater before c rest := fun h =>
      Bool.false_ne_true (h.2.1.symm.trans hword)
    rw [if_pos hword, List.singleton_append, kebabAfter, startsWord_eq_false hhyphen.not_isUppercase,
      hhyphen.toLowercase_eq, kebabAfter_toLowercase, hafter]
    simp [hgets]
  · rw [if_neg hword, List.nil_append, kebabAfter_toLowercase]
    by_cases hagain : toLowercase c = [c] ∧
        startsWord (written before) c (kebabAfter (some c) rest).head? = true
    · have hgets : GetsHyphenLater before c rest :=
        ⟨hagain.1, Bool.eq_false_iff.2 hword, hagain.2⟩
      -- A capital is no hyphen.
      have hne : '-' ≠ c := by
        rintro rfl
        exact Bool.false_ne_true
          (hhyphen.not_isUppercase.symm.trans (isUppercase_of_startsWord hagain.2))
      rw [if_pos hagain, hagain.1]
      simp [hgets, hne]
    · have hgets : ¬GetsHyphenLater before c rest := fun h => hagain ⟨h.1, h.2.2⟩
      rw [if_neg hagain]
      simp [hgets]

/-! ## Neighbours in lowercase -/

theorem not_getsHyphenLater_none (c : Char) (rest : List Char) : ¬GetsHyphenLater none c rest :=
  fun h => Bool.false_ne_true h.2.2

theorem toNat_lt_of_isDigit (h : d.isDigit = true) : d.toNat < 'a'.toNat := by
  unfold Char.isDigit at h
  simp only [Bool.and_eq_true, decide_eq_true_eq, UInt32.le_iff_toNat_le] at h
  exact Nat.lt_of_le_of_lt h.2 (by decide)

theorem isDigit_of_mem_toLowercase (hd : d ∈ toLowercase p) (h : d.isDigit = true) :
    p.isDigit = true := by
  rwa [eq_of_mem_toLowercase hd (toNat_lt_of_isDigit h)]

/-- Only a separator becomes a separator, and it becomes nothing else. -/
theorem isSeparator_of_mem_toLowercase (hd : d ∈ toLowercase p) : isSeparator d = isSeparator p := by
  cases h : isSeparator p with
  | true =>
    rw [(caseless_of_isSeparator h).toLowercase_eq, List.mem_singleton] at hd
    rwa [hd]
  | false =>
    refine Bool.eq_false_iff.2 fun hsep => ?_
    rw [eq_of_mem_toLowercase hd (caseless_of_isSeparator hsep).lt, hsep] at h
    cases h

/-- What is written for a text begins in lowercase, if its first character gets no hyphen and its
lowercase form does. -/
theorem any_head?_kebabAfter_iff : (kebabAfter before text).head?.any isLowercase = true ↔
    ∃ d rest, text = d :: rest ∧ startsWord before d rest.head? = false ∧
      (toLowercase d).head?.any isLowercase = true := by
  have hhyphen : isLowercase '-' = false := (caseless_of_isSeparator rfl).not_isLowercase
  cases text with
  | nil => simp [kebabAfter]
  | cons d rest =>
    obtain ⟨l, form, hform⟩ := List.exists_cons_of_ne_nil (toLowercase_ne_nil d)
    rw [kebabAfter]
    cases hword : startsWord before d rest.head? with
    | true =>
      refine iff_of_false (by simp [hhyphen]) ?_
      rintro ⟨d', rest', htext, hnot, -⟩
      cases htext
      exact Bool.false_ne_true (hnot.symm.trans hword)
    | false =>
      have hhead : ([] ++ (toLowercase d ++ kebabAfter (some d) rest)).head? =
          (toLowercase d).head? := by
        rw [hform]
        rfl
      rw [if_neg Bool.false_ne_true, hhead]
      refine ⟨fun h => ⟨d, rest, rfl, hword, h⟩, ?_⟩
      rintro ⟨d', rest', htext, -, h⟩
      cases htext
      exact h

/-- The second run puts a hyphen before the capitals that begin a word of what is written. -/
theorem getsHyphenLater_iff : GetsHyphenLater (some p) c after ↔ BeginsWordLater p c after := by
  obtain ⟨l, hl⟩ : ∃ l, (toLowercase p).getLast? = some l :=
    Option.ne_none_iff_exists'.1 (mt List.getLast?_eq_none_iff.1 (toLowercase_ne_nil p))
  have hmem := List.mem_of_getLast? hl
  have hwritten : written (some p) = some l := hl
  unfold GetsHyphenLater BeginsWordLater
  rw [hwritten, hl, Option.any_some, ← any_head?_kebabAfter_iff, ← isSeparator_of_mem_toLowercase hmem]
  constructor
  · rintro ⟨hself, hword, hagain⟩
    have hupper := isUppercase_of_startsWord hagain
    refine ⟨hupper, hself, hword, ?_⟩
    simp only [startsWord, Bool.and_eq_true, Bool.or_eq_true, Bool.not_eq_true'] at hagain
    rcases hagain.2 with (hlower | hdigit) | ⟨hnext, hsep⟩
    · exact .inl hlower
    · -- A digit has been there before.
      simp [startsWord, hupper, isDigit_of_mem_toLowercase hmem hdigit] at hword
    · exact .inr ⟨hsep, hnext⟩
  · rintro ⟨hupper, hself, hword, hlower | ⟨hsep, hnext⟩⟩
    · exact ⟨hself, hword, by simp [startsWord, hupper, hlower]⟩
    · exact ⟨hself, hword, by simp [startsWord, hupper, hsep, hnext]⟩

/-! ## Whole names -/

theorem forall_split_cons {first second : Char} {P : Char → Char → List Char → Prop} :
    (∀ done p c after, first :: second :: text = done ++ p :: c :: after → P p c after) ↔
      P first second text ∧
        ∀ done p c after, second :: text = done ++ p :: c :: after → P p c after := by
  constructor
  · intro h
    exact ⟨h [] first second text rfl,
      fun done p c after hsplit => h (first :: done) p c after (congrArg (first :: ·) hsplit)⟩
  · rintro ⟨hfirst, hrest⟩ done p c after hsplit
    cases done with
    | nil =>
      cases hsplit
      exact hfirst
    | cons e done => exact hrest done p c after (List.cons.inj hsplit).2

/-- The second run leaves what the first one has written, if no capital begins a word later. -/
theorem kebabAfter_kebabAfter_iff (before : Option Char) (text : List Char) :
    kebabAfter (written before) (kebabAfter before text) = kebabAfter before text ↔
      ∀ done p c after, before.toList ++ text = done ++ p :: c :: after →
        ¬BeginsWordLater p c after := by
  induction text generalizing before with
  | nil =>
    refine iff_of_true rfl fun done p c after h => ?_
    have hlength := congrArg List.length h
    cases before <;> simp at hlength
    omega
  | cons c rest ih =>
    rw [kebabAfter_kebabAfter_cons, ih]
    cases before with
    | none =>
      rw [and_iff_right (not_getsHyphenLater_none c rest)]
      rfl
    | some p =>
      rw [getsHyphenLater_iff]
      exact (forall_split_cons (P := fun p c after => ¬BeginsWordLater p c after)).symm

theorem toLowercase_of_mem_kebabAfter (h : d ∈ kebabAfter before text) : toLowercase d = [d] := by
  induction text generalizing before with
  | nil => cases h
  | cons c rest ih =>
    rw [kebabAfter, List.mem_append, List.mem_append] at h
    rcases h with h | h | h
    · split at h
      · obtain rfl := List.mem_singleton.1 h
        exact (caseless_of_isSeparator rfl).toLowercase_eq
      · cases h
    · exact toLowercase_of_mem h
    · exact ih h

/-- No capital begins a word later among characters that lowercasing does not change. -/
theorem not_beginsWordLater (hp : toLowercase p = [p])
    (hafter : ∀ d ∈ after, toLowercase d = [d]) : ¬BeginsWordLater p c after := by
  rintro ⟨hupper, -, hword, hlower | ⟨hsep, d, rest, rfl, -, hnext⟩⟩
  · rw [hp] at hlower
    have hlower : isLowercase p = true := hlower
    simp [startsWord, hupper, hlower] at hword
  · rw [hafter d List.mem_cons_self] at hnext
    have hnext : isLowercase d = true := hnext
    simp [startsWord, hupper, hsep, hnext] at hword

/-- A name in kebab case stays as it is, written in kebab case once more, if and only if no capital of
the name begins a word later. Names whose capitals all have lowercase forms hold none, and neither do
names in kebab case. -/
theorem kebab_kebab_eq_iff (s : String) :
    (kebab (kebab s) = kebab s ↔ ∀ before p c after, s.toList = before ++ p :: c :: after →
      ¬BeginsWordLater p c after) ∧
      ((∀ c ∈ s.toList, isUppercase c = true → toLowercase c ≠ [c]) →
        kebab (kebab s) = kebab s) ∧
      kebab (kebab (kebab s)) = kebab (kebab s) := by
  have hagain (s : String) : kebab (kebab s) = kebab s ↔
      ∀ before p c after, s.toList = before ++ p :: c :: after → ¬BeginsWordLater p c after := by
    refine Iff.trans ?_ (kebabAfter_kebabAfter_iff none s.toList)
    rw [← String.toList_inj]
    simp only [kebab, String.toList_ofList]
    rfl
  refine ⟨hagain s, fun hforms => (hagain s).2 ?_, (hagain (kebab s)).2 ?_⟩
  · intro before p c after htext hlater
    exact hforms c (by simp [htext]) hlater.1 hlater.2.1
  · intro before p c after htext
    have hwritten : ∀ d ∈ before ++ p :: c :: after, toLowercase d = [d] := by
      intro d hd
      rw [← htext, kebab, String.toList_ofList] at hd
      exact toLowercase_of_mem_kebabAfter hd
    exact not_beginsWordLater (hwritten p (by simp)) fun d hd => hwritten d (by simp [hd])

/-- A double-struck capital has no lowercase form. Behind another capital it begins no word, and
behind a small letter it does. -/
theorem kebab_kebab_doubleStruck :
    BeginsWordLater 'A' 'ℂ' [] ∧ kebab "Aℂ" = "aℂ" ∧ kebab "aℂ" = "a-ℂ" ∧
      kebab (kebab "Aℂ") ≠ kebab "Aℂ" := by
  have hlater : BeginsWordLater 'A' 'ℂ' [] :=
    ⟨by decide +kernel, by decide +kernel, by decide +kernel, .inl (by decide +kernel)⟩
  refine ⟨hlater, by decide +kernel, by decide +kernel, fun hsame => ?_⟩
  exact (kebab_kebab_eq_iff "Aℂ").1.1 hsame [] 'A' 'ℂ' [] rfl hlater

end ApiCli.Text

import ApiCli.Text.Lowercase
import ApiCli.Text.Uppercase

/-!
# Case of characters

The tables of the case properties and of the lowercase forms, compared with each other.

* `bitsOf runs` is a number whose binary digits tell which characters are in the runs. Runs whose
  numbers have no digit in common have no character in common (`any_contains_eq_false`).
* `CharShift.image` are the characters to which those of a shift move.

No character is uppercase and lowercase (`not_isLowercase_of_isUppercase`). What lowercasing changes,
it changes to characters that it does not change again (`toLowercase_cases`).
-/

namespace ApiCli.Text

variable {c d : Char}

/-! ## Runs as numbers -/

/-- The digits at `0`, `stride`, … up to `last * stride`. -/
def strideBits (stride : Nat) : Nat → Nat
  | 0 => 1
  | last + 1 => 1 ||| strideBits stride last <<< stride

def CharRun.bits (r : CharRun) : Nat :=
  strideBits r.stride ((r.last - r.first) / r.stride) <<< r.first

def bitsOf (runs : List CharRun) : Nat := runs.foldr (fun r bits => r.bits ||| bits) 0

theorem testBit_strideBits (stride : Nat) {k last : Nat} (h : k ≤ last) :
    (strideBits stride last).testBit (k * stride) = true := by
  induction last generalizing k with
  | zero =>
    obtain rfl := Nat.le_zero.1 h
    simp [strideBits]
  | succ last ih =>
    rw [strideBits, Nat.testBit_or]
    cases k with
    | zero => simp
    | succ k =>
      have hk := ih (Nat.le_of_succ_le_succ h)
      simp [Nat.testBit_shiftLeft, Nat.succ_mul, hk]

theorem CharRun.testBit_bits {r : CharRun} {n : Nat} (h : r.contains n = true) :
    r.bits.testBit n = true := by
  simp only [CharRun.contains, Bool.and_eq_true, decide_eq_true_eq, beq_iff_eq] at h
  obtain ⟨⟨hfirst, hlast⟩, hstride⟩ := h
  have hindex : (n - r.first) / r.stride ≤ (r.last - r.first) / r.stride :=
    Nat.div_le_div_right (Nat.sub_le_sub_right hlast _)
  have hbit := testBit_strideBits r.stride hindex
  rw [Nat.div_mul_cancel (Nat.dvd_of_mod_eq_zero hstride)] at hbit
  rw [bits, Nat.testBit_shiftLeft, hbit]
  simpa using hfirst

theorem testBit_bitsOf {runs : List CharRun} {n : Nat}
    (h : (runs.any fun r => r.contains n) = true) : (bitsOf runs).testBit n = true := by
  induction runs with
  | nil => simp at h
  | cons r runs ih =>
    rw [bitsOf, List.foldr_cons, Nat.testBit_or, Bool.or_eq_true]
    rw [List.any_cons, Bool.or_eq_true] at h
    exact h.imp CharRun.testBit_bits ih

/-- Runs without a common digit have no character in common. -/
theorem any_contains_eq_false {runs others : List CharRun} (h : bitsOf runs &&& bitsOf others = 0)
    {n : Nat} (hn : (runs.any fun r => r.contains n) = true) :
    (others.any fun r => r.contains n) = false := by
  refine Bool.eq_false_iff.2 fun hother => ?_
  have hboth : (bitsOf runs &&& bitsOf others).testBit n = true := by
    rw [Nat.testBit_and, testBit_bitsOf hn, testBit_bitsOf hother, Bool.and_self]
  rw [h, Nat.zero_testBit] at hboth
  cases hboth

/-! ## The two properties -/

theorem land_uppercaseRuns : bitsOf uppercaseRuns &&& bitsOf lowercaseRuns = 0 := by
  decide +kernel

theorem not_isLowercase_of_isUppercase (h : isUppercase c = true) : isLowercase c = false :=
  any_contains_eq_false land_uppercaseRuns h

/-! ## Lowercase forms -/

/-- The characters to which those of a shift move. -/
def CharShift.image (s : CharShift) : CharRun :=
  ⟨(s.run.first + s.distance).toNat, (s.run.last + s.distance).toNat, s.run.stride⟩

/-- A shift moves its characters to characters behind the capitals of ASCII. -/
def CharShift.InRange (s : CharShift) : Prop :=
  'a'.toNat ≤ s.run.first + s.distance ∧
    (s.run.last + s.distance < 0xD800 ∨
      0xDFFF < s.run.first + s.distance ∧ s.run.last + s.distance < 0x110000)

instance (s : CharShift) : Decidable s.InRange := inferInstanceAs (Decidable (_ ∧ _))

theorem CharShift.contains_image {s : CharShift} {n : Nat} (hs : s.InRange)
    (h : s.run.contains n = true) : s.image.contains (n + s.distance).toNat = true := by
  simp only [CharRun.contains, Bool.and_eq_true, decide_eq_true_eq, beq_iff_eq] at h ⊢
  obtain ⟨⟨hfirst, hlast⟩, hstride⟩ := h
  have ha : 'a'.toNat ≤ s.run.first + s.distance := hs.1
  have hindex : (n + s.distance).toNat - (s.run.first + s.distance).toNat = n - s.run.first := by
    omega
  refine ⟨⟨?_, ?_⟩, ?_⟩
  · exact Int.toNat_le_toNat (by omega)
  · exact Int.toNat_le_toNat (by omega)
  · rw [image, hindex, hstride]

theorem CharShift.toNat_apply {s : CharShift} (hs : s.InRange)
    (h : s.run.contains c.toNat = true) : (s.apply c).toNat = (c.toNat + s.distance).toNat := by
  simp only [CharRun.contains, Bool.and_eq_true, decide_eq_true_eq, beq_iff_eq] at h
  obtain ⟨ha, hvalid⟩ := hs
  have hchar : (c.toNat + s.distance).toNat.isValidChar := by
    unfold Nat.isValidChar
    omega
  rw [apply, Char.ofNat, dif_pos hchar]
  rfl

/-- A character that lowercasing makes of another one. -/
structure IsFolded (c : Char) : Prop where
  not_isUppercase : isUppercase c = false
  toLowercase_eq : toLowercase c = [c]
  le : 'a'.toNat ≤ c.toNat

instance (c : Char) : Decidable (IsFolded c) :=
  decidable_of_iff (isUppercase c = false ∧ toLowercase c = [c] ∧ 'a'.toNat ≤ c.toNat)
    ⟨fun h => ⟨h.1, h.2.1, h.2.2⟩, fun h => ⟨h.1, h.2, h.3⟩⟩

theorem inRange_lowercaseShifts : ∀ s ∈ lowercaseShifts, s.InRange := by decide +kernel

theorem land_lowercaseShifts : bitsOf (lowercaseShifts.map CharShift.image) &&&
    bitsOf (uppercaseRuns ++ lowercaseShifts.map CharShift.run) = 0 := by
  decide +kernel

theorem toLowercase_of_not_moved (h : (lowercaseExpansions.lookup c.toNat).isNone)
    (hmoved : ((lowercaseShifts.map CharShift.run).any fun r => r.contains c.toNat) = false) :
    toLowercase c = [c] := by
  have hfind : (lowercaseShifts.find? fun s => s.run.contains c.toNat) = none := by
    rw [List.any_map] at hmoved
    simpa [Function.comp_def] using hmoved
  rw [toLowercase, Option.isNone_iff_eq_none.1 h, hfind]

/-- The characters that expand are uppercase. -/
theorem lookup_lowercaseExpansions (h : isUppercase c = false) :
    (lowercaseExpansions.lookup c.toNat).isNone := by
  have hupper : ∀ e ∈ lowercaseExpansions, isUppercase (Char.ofNat e.1) = true := by decide +kernel
  rw [Option.isNone_iff_eq_none, List.lookup_eq_none_iff]
  intro e he
  refine bne_iff_ne.2 fun heq => ?_
  have hc := hupper e he
  rw [← heq, Char.ofNat_toNat, h] at hc
  cases hc

theorem isFolded_of_mem_lowercaseExpansions : ∀ e ∈ lowercaseExpansions,
    e.2 ≠ [] ∧ ∀ n ∈ e.2, IsFolded (Char.ofNat n) := by
  decide +kernel

theorem isFolded_apply {s : CharShift} (hs : s ∈ lowercaseShifts)
    (h : s.run.contains c.toNat = true) : IsFolded (s.apply c) := by
  have hrange := inRange_lowercaseShifts s hs
  have hto := CharShift.toNat_apply hrange h
  have himage : ((lowercaseShifts.map CharShift.image).any fun r =>
      r.contains (s.apply c).toNat) = true := by
    rw [hto]
    exact List.any_eq_true.2
      ⟨s.image, List.mem_map_of_mem hs, CharShift.contains_image hrange h⟩
  have hapart := any_contains_eq_false land_lowercaseShifts himage
  rw [List.any_append, Bool.or_eq_false_iff] at hapart
  have hle : 'a'.toNat ≤ (s.apply c).toNat := by
    simp only [CharRun.contains, Bool.and_eq_true, decide_eq_true_eq] at h
    have ha : ('a'.toNat : Int) ≤ s.run.first + s.distance := hrange.1
    omega
  exact ⟨hapart.1, toLowercase_of_not_moved (lookup_lowercaseExpansions hapart.1) hapart.2, hle⟩

/-- A character is its own lowercase form, or the form is one that lowercasing does not change. -/
theorem toLowercase_cases (c : Char) :
    toLowercase c = [c] ∨ toLowercase c ≠ [] ∧ ∀ d ∈ toLowercase c, IsFolded d := by
  unfold toLowercase
  split
  · next form hform =>
    obtain ⟨before, after, hmem, -⟩ := List.lookup_eq_some_iff.1 hform
    obtain ⟨hne, hfolded⟩ := isFolded_of_mem_lowercaseExpansions (c.toNat, form)
      (by rw [hmem]; exact List.mem_append_right _ List.mem_cons_self)
    exact .inr ⟨mt List.map_eq_nil_iff.1 hne, List.forall_mem_map.2 hfolded⟩
  · split
    · next s hs =>
      have hrun : s.run.contains c.toNat = true := by simpa using List.find?_some hs
      exact .inr ⟨List.cons_ne_nil _ _,
        List.forall_mem_singleton.2 (isFolded_apply (List.mem_of_find?_eq_some hs) hrun)⟩
    · exact .inl rfl

theorem toLowercase_ne_nil (c : Char) : toLowercase c ≠ [] := by
  rcases toLowercase_cases c with h | h
  · exact h ▸ List.cons_ne_nil _ _
  · exact h.1

/-- Nothing becomes a character before the small letters of ASCII. -/
theorem eq_of_mem_toLowercase (h : d ∈ toLowercase c) (hd : d.toNat < 'a'.toNat) : c = d := by
  rcases toLowercase_cases c with hc | hc
  · rw [hc, List.mem_singleton] at h
    exact h.symm
  · exact absurd (hc.2 d h).le (Nat.not_le.2 hd)

/-- Lowercasing once more changes nothing. -/
theorem toLowercase_of_mem (h : d ∈ toLowercase c) : toLowercase d = [d] := by
  rcases toLowercase_cases c with hc | hc
  · rw [hc, List.mem_singleton] at h
    exact h ▸ hc
  · exact (hc.2 d h).toLowercase_eq

end ApiCli.Text

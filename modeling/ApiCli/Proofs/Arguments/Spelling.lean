import ApiCli.Proofs.Arguments.Value

/-!
# Spelling values

How the values of a type are written on a command line, and that they are read from there.

* A `Datum` is a value before it is written, `Datum.Spelled` says by which words it can be written:
  a text by itself, an integer by digits that may have a sign and zeros in front, a truth value by
  one of its words in any letter case. `Datum.word` is the form that is kept.
* `Datum.read?_of_spelled`: however a value is spelled, it is read as the form that is kept.
* `FlagType.Holds` says which values a type holds. `FlagType.readAll?_intercalate`: the values of
  one word with commas between their spellings.
-/

namespace ApiCli

/-- A value that a flag can take. -/
inductive Datum where
  | text (s : String)
  | integer (n : Int)
  | truth (b : Bool)
  deriving DecidableEq

namespace Datum

/-- The form in which a value is kept. -/
def word : Datum → String
  | text s => s
  | integer n => toString n
  | truth b => if b then "true" else "false"

/-- An integer of 64 bits. -/
def InRange (n : Int) : Prop := -Scalar.integerBound ≤ n ∧ n < Scalar.integerBound

/-- The values of a scalar type: any text, the integers of 64 bits and the truth values. -/
inductive OfScalar : Scalar → Datum → Prop
  | text (s : String) : OfScalar .string (text s)
  | integer : InRange n → OfScalar .integer (integer n)
  | truth (b : Bool) : OfScalar .boolean (truth b)

/-- Only a text can have a comma in it. -/
def CommaFree : Datum → Prop
  | text s => ',' ∉ s.toList
  | integer _ | truth _ => True

/-- A row of at least one decimal digit. -/
def Digits (digits : List Char) : Prop := digits ≠ [] ∧ ∀ c ∈ digits, c.isDigit = true

/-- The number of a row of decimal digits. -/
def number (digits : List Char) : Int := (Nat.ofDigitChars 10 digits 0 : Nat)

/-- The words by which a value is written. -/
inductive Spelled : Datum → String → Prop
  | text (s : String) : Spelled (text s) s
  | unsigned : Digits digits → Spelled (integer (number digits)) (String.ofList digits)
  | plus : Digits digits → Spelled (integer (number digits)) (String.ofList ('+' :: digits))
  | minus : Digits digits → Spelled (integer (-number digits)) (String.ofList ('-' :: digits))
  | truth : Method.asciiLower w ∈ Scalar.trueWords → Spelled (truth true) w
  | falsehood : Method.asciiLower w ∈ Scalar.falseWords → Spelled (truth false) w

variable {d : Datum} {w : String} {digits : List Char} {t : Scalar}

/-! ## Digits -/

theorem Digits.toDigits (n : Nat) : Digits (Nat.toDigits 10 n) :=
  ⟨Nat.toDigits_ne_nil, fun _ => Nat.isDigit_of_mem_toDigits (by decide) (by decide)⟩

theorem digit?_of_isDigit {c : Char} (h : c.isDigit = true) :
    Text.digit? 10 c = some (c.toNat - 48) := by
  have hlt : c.toNat - 48 < 10 := by
    obtain ⟨-, hle⟩ := Char.isDigit_iff_toNat.1 h
    change c.toNat ≤ 57 at hle
    omega
  rw [Text.digit?, Text.hexDigit?, if_pos h, Option.filter_some, if_pos (by simpa using hlt)]

theorem Digits.readDigits? (h : Digits digits) :
    Scalar.readDigits? digits = some (Nat.ofDigitChars 10 digits 0) := by
  obtain ⟨hne, hdigits⟩ := h
  have hmap : digits.mapM (Text.digit? 10) = some (digits.map fun c => c.toNat - 48) := by
    clear hne
    induction digits with
    | nil => rfl
    | cons c digits ih =>
      obtain ⟨hc, hrest⟩ := List.forall_mem_cons.1 hdigits
      rw [List.mapM_cons, digit?_of_isDigit hc, ih hrest]
      rfl
  have hfold (ds : List Char) (n : Nat) :
      (ds.map fun c => c.toNat - 48).foldl (fun n d => n * 10 + d) n =
        Nat.ofDigitChars 10 ds n := by
    rw [List.foldl_map, Nat.ofDigitChars]
    simp only [Nat.mul_comm 10]
    rfl
  rw [Scalar.readDigits?, if_neg (by simpa using hne), Text.digits?, hmap, Option.map_some, hfold]

/-- A row of digits has no sign in front. -/
theorem Digits.head?_ne (h : Digits digits) {c : Char} (hc : c.isDigit = false) :
    digits.head? ≠ some c := by
  intro hhead
  have hdigit := h.2 c (List.mem_of_head? hhead)
  rw [hc] at hdigit
  cases hdigit

theorem Digits.notMem (h : Digits digits) {c : Char} (hc : c.isDigit = false) : c ∉ digits := by
  intro hmem
  rw [h.2 c hmem] at hc
  cases hc

/-! ## Reading what is spelled -/

/-- An integer of 64 bits passes the check of its range. -/
theorem filter_of_inRange {n : Int} (h : InRange n) :
    (some n).filter (fun n => -Scalar.integerBound ≤ n && n < Scalar.integerBound) = some n := by
  obtain ⟨hlow, hhigh⟩ := h
  rw [Option.filter_some, if_pos (by simp [hlow, hhigh])]

theorem readInteger?_unsigned (h : Digits digits) (hrange : InRange (number digits)) :
    Scalar.readInteger? (String.ofList digits) = some (number digits) := by
  unfold Scalar.readInteger?
  rw [String.toList_ofList]
  split
  · exact absurd rfl (h.head?_ne (c := '-') (by decide))
  · exact absurd rfl (h.head?_ne (c := '+') (by decide))
  · rw [h.readDigits?]
    exact filter_of_inRange hrange

theorem readInteger?_plus (h : Digits digits) (hrange : InRange (number digits)) :
    Scalar.readInteger? (String.ofList ('+' :: digits)) = some (number digits) := by
  unfold Scalar.readInteger?
  simp only [String.toList_ofList, h.readDigits?]
  exact filter_of_inRange hrange

theorem readInteger?_minus (h : Digits digits) (hrange : InRange (-number digits)) :
    Scalar.readInteger? (String.ofList ('-' :: digits)) = some (-number digits) := by
  unfold Scalar.readInteger?
  simp only [String.toList_ofList, h.readDigits?]
  exact filter_of_inRange hrange

theorem readBoolean?_truth (h : Method.asciiLower w ∈ Scalar.trueWords) :
    Scalar.readBoolean? w = some true := by
  rw [Scalar.readBoolean?, if_pos (List.contains_iff_mem.2 h)]

theorem readBoolean?_falsehood (h : Method.asciiLower w ∈ Scalar.falseWords) :
    Scalar.readBoolean? w = some false := by
  have hdisjoint : ∀ v ∈ Scalar.falseWords, v ∉ Scalar.trueWords := by decide
  have hnot : ¬Scalar.trueWords.contains (Method.asciiLower w) = true := fun hmem =>
    hdisjoint _ h (List.contains_iff_mem.1 hmem)
  rw [Scalar.readBoolean?, if_neg hnot, if_pos (List.contains_iff_mem.2 h)]

/-- However a value is spelled, it is read as the form that is kept. -/
theorem read?_of_spelled (h : d.Spelled w) (ht : OfScalar t d) : t.read? w = some d.word := by
  cases ht with
  | text s =>
    cases h
    rfl
  | integer hrange =>
    rw [Scalar.read?]
    cases h with
    | unsigned hdigits => rw [readInteger?_unsigned hdigits hrange, Option.map_some, word]
    | plus hdigits => rw [readInteger?_plus hdigits hrange, Option.map_some, word]
    | minus hdigits => rw [readInteger?_minus hdigits hrange, Option.map_some, word]
  | truth b =>
    rw [Scalar.read?]
    cases h with
    | truth hword => rw [readBoolean?_truth hword, Option.map_some, word]
    | falsehood hword => rw [readBoolean?_falsehood hword, Option.map_some, word]

/-- The form that is kept is a spelling. -/
theorem spelled_word (d : Datum) : d.Spelled d.word := by
  cases d with
  | text s => exact .text s
  | integer n =>
    have hnumber (m : Nat) : number (Nat.toDigits 10 m) = m :=
      congrArg Int.ofNat Nat.ofDigitChars_ten_toDigits
    rw [word, Int.toString_eq_repr, Int.repr_eq_if]
    split
    · next hn =>
      have hspelled := Spelled.unsigned (Digits.toDigits n.toNat)
      rw [hnumber, Int.toNat_of_nonneg hn] at hspelled
      rw [Nat.repr_eq_ofList_toDigits]
      exact hspelled
    · next hn =>
      have hspelled := Spelled.minus (Digits.toDigits (-n).toNat)
      rw [hnumber, Int.toNat_of_nonneg (by omega), Int.neg_neg, String.ofList_cons] at hspelled
      rw [Nat.repr_eq_ofList_toDigits]
      exact hspelled
  | truth b =>
    cases b with
    | true => exact .truth (by decide)
    | false => exact .falsehood (by decide)

theorem Spelled.notMem_comma (h : d.Spelled w) (hfree : d.CommaFree) : ',' ∉ w.toList := by
  have hwords {v : String} (hv : v ∈ Scalar.trueWords ∨ v ∈ Scalar.falseWords)
      (hlower : Method.asciiLower w = v) : ',' ∉ w.toList := by
    intro hmem
    have hcomma : ',' ∈ (Method.asciiLower w).toList := by
      rw [Method.asciiLower, String.toList_ofList]
      exact List.mem_map.2 ⟨',', hmem, by decide⟩
    have hnone : ∀ v ∈ Scalar.trueWords ++ Scalar.falseWords, ',' ∉ v.toList := by decide
    exact hnone v (List.mem_append.2 hv) (hlower ▸ hcomma)
  cases h with
  | text s => exact hfree
  | unsigned hdigits =>
    rw [String.toList_ofList]
    exact hdigits.notMem (by decide)
  | plus hdigits =>
    rw [String.toList_ofList]
    exact List.not_mem_cons_of_ne_of_not_mem (by decide) (hdigits.notMem (by decide))
  | minus hdigits =>
    rw [String.toList_ofList]
    exact List.not_mem_cons_of_ne_of_not_mem (by decide) (hdigits.notMem (by decide))
  | truth hword => exact hwords (.inl hword) rfl
  | falsehood hword => exact hwords (.inr hword) rfl

end Datum

/-! ## Types -/

namespace FlagType

/-- The values that a type holds: one of a single type, and at least one of an array. The texts of
an array have no comma. -/
inductive Holds : FlagType → List Datum → Prop
  | single : Datum.OfScalar s d → Holds (.single s) [d]
  | array : data ≠ [] → (∀ d ∈ data, Datum.OfScalar s d) → (∀ d ∈ data, d.CommaFree) →
      Holds (.array s) data

variable {t : FlagType} {chunks : List (List Datum)} {parts : List (Datum × String)}

theorem Holds.ne_nil {data : List Datum} (h : t.Holds data) : data ≠ [] := by
  cases h with
  | single => exact List.cons_ne_nil _ _
  | array hne => exact hne

/-- Values that are given in chunks are held chunk by chunk. -/
theorem Holds.chunk (h : t.Holds chunks.flatten) (hne : ∀ chunk ∈ chunks, chunk ≠ []) :
    ∀ chunk ∈ chunks, t.Holds chunk := by
  intro chunk hchunk
  have hsublist : chunk.Sublist chunks.flatten := List.sublist_flatten_of_mem hchunk
  generalize chunks.flatten = data at h hsublist
  cases h with
  | single hd =>
    have hlength : 0 < chunk.length := List.length_pos_iff.2 (hne chunk hchunk)
    rw [hsublist.eq_of_length_le hlength]
    exact .single hd
  | array _ hscalar hfree =>
    exact .array (hne chunk hchunk) (fun d hd => hscalar d (hsublist.subset hd))
      fun d hd => hfree d (hsublist.subset hd)

/-- The value of a single type is given in one chunk. -/
theorem Holds.length_le_one (h : t.Holds chunks.flatten) (hne : ∀ chunk ∈ chunks, chunk ≠ [])
    (hsingle : t.isArray = false) : chunks.length ≤ 1 := by
  have hlength : chunks.flatten.length = 1 := by
    generalize chunks.flatten = data at h
    cases h with
    | single => rfl
    | array => cases hsingle
  match chunks with
  | [] => exact Nat.zero_le 1
  | [chunk] => exact Nat.le_refl 1
  | chunk :: next :: rest =>
    have hfirst := List.length_pos_iff.2 (hne chunk List.mem_cons_self)
    have hsecond := List.length_pos_iff.2 (hne next (List.mem_cons_of_mem _ List.mem_cons_self))
    simp only [List.flatten_cons, List.length_append] at hlength
    omega

theorem readAll?_single (s : Scalar) (raws : List String) :
    (single s).readAll? raws = raws.mapM s.read? := rfl

theorem readAll?_array (s : Scalar) (raws : List String) :
    (array s).readAll? raws = (raws.flatMap (Text.splitOn ',')).mapM s.read? := rfl

theorem mapM_read? {s : Scalar} (hspelled : ∀ p ∈ parts, p.1.Spelled p.2)
    (hscalar : ∀ d ∈ parts.map (·.1), Datum.OfScalar s d) :
    (parts.map (·.2)).mapM s.read? = some (parts.map fun p => p.1.word) := by
  induction parts with
  | nil => rfl
  | cons p parts ih =>
    obtain ⟨hp, hparts⟩ := List.forall_mem_cons.1 hspelled
    rw [List.map_cons] at hscalar
    obtain ⟨hd, hdata⟩ := List.forall_mem_cons.1 hscalar
    rw [List.map_cons, List.mapM_cons, Datum.read?_of_spelled hp hd, ih hparts hdata]
    rfl

/-- The values of one word, with commas between their spellings. -/
theorem readAll?_intercalate (hspelled : ∀ p ∈ parts, p.1.Spelled p.2)
    (h : t.Holds (parts.map (·.1))) :
    t.readAll? [",".intercalate (parts.map (·.2))] = some (parts.map fun p => p.1.word) := by
  generalize hdata : parts.map (·.1) = data at h
  cases h with
  | single hd =>
    obtain ⟨p, rfl, rfl⟩ := List.map_eq_singleton_iff.1 hdata
    rw [List.map_singleton, String.intercalate_singleton, readAll?_single]
    exact mapM_read? hspelled (List.forall_mem_singleton.2 hd)
  | array hne hscalar hfree =>
    have hwords : ∀ w ∈ parts.map (·.2), ',' ∉ w.toList := by
      intro w hw
      obtain ⟨p, hp, rfl⟩ := List.mem_map.1 hw
      exact (hspelled p hp).notMem_comma (hfree _ (hdata ▸ List.mem_map_of_mem hp))
    have hne' : parts.map (·.2) ≠ [] := by
      intro hnil
      rw [List.map_eq_nil_iff.1 hnil] at hdata
      exact hne hdata.symm
    rw [readAll?_array, List.flatMap_singleton, Text.splitOn_intercalate hne' hwords]
    exact mapM_read? hspelled (hdata ▸ hscalar)

end FlagType
end ApiCli

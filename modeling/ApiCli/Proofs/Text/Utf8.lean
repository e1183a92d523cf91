import Mathlib.Tactic.SplitIfs
import ApiCli.Text.Utf8

/-!
# UTF-8

The octets of a text: which characters they belong to, and that they are read as the text.

* `scan_utf8EncodeChar`: the reader makes one character of the octets of a character and then stands
  between characters again.
* `decode?_encode`: what is encoded is decoded.
* `decode?_concat`: an octet of ASCII after others is a character of its own, or they encode no text.

A class of ASCII characters is looked through with `exists_ofNat`.
-/

namespace ApiCli.Utf8

/-! ## Characters of ASCII -/

theorem exists_ofNat {c : Char} (h : c.toNat < 128) : ∃ n < 128, Char.ofNat n = c :=
  ⟨c.toNat, h, Char.ofNat_toNat c⟩

theorem lt_of_isAlphanum {c : Char} (h : c.isAlphanum = true) : c.toNat < 128 := by
  unfold Char.isAlphanum Char.isAlpha Char.isUpper Char.isLower Char.isDigit at h
  simp only [Bool.or_eq_true, Bool.and_eq_true, decide_eq_true_eq, ge_iff_le,
    UInt32.le_iff_toNat_le] at h
  change c.val.toNat < 128
  rcases h with (h | h) | h
  · exact Nat.lt_of_le_of_lt h.2 (by decide)
  · exact Nat.lt_of_le_of_lt h.2 (by decide)
  · exact Nat.lt_of_le_of_lt h.2 (by decide)

/-! ## Encoding -/

theorem encode_cons (c : Char) (text : List Char) :
    encode (c :: text) = String.utf8EncodeChar c ++ encode text := rfl

theorem encode_append (text text' : List Char) :
    encode (text ++ text') = encode text ++ encode text' :=
  List.flatMap_append

theorem encode_injective {text text' : List Char} (h : encode text = encode text') :
    text = text' := by
  refine String.ofList_injective (String.toByteArray_inj.1 ?_)
  rw [String.toByteArray_ofList, String.toByteArray_ofList]
  exact congrArg List.toByteArray h

theorem utf8EncodeChar_ascii {c : Char} (h : c.toNat < 128) :
    String.utf8EncodeChar c = [UInt8.ofNat c.toNat] :=
  if_pos (Nat.le_of_lt_succ h)

/-- An octet below 128 is a whole character. -/
theorem eq_of_mem_utf8EncodeChar {c : Char} {b : UInt8} (hb : b ∈ String.utf8EncodeChar c)
    (hlt : b.toNat < 128) : c.toNat = b.toNat := by
  unfold String.utf8EncodeChar at hb
  dsimp only at hb
  split at hb
  · obtain rfl := List.mem_singleton.1 hb
    change c.val.toNat = _
    rw [UInt8.toNat_ofNat']
    omega
  · -- every octet of a longer encoding has its highest bit set
    exfalso
    split at hb
    · simp only [List.mem_cons, List.not_mem_nil, or_false] at hb
      rcases hb with rfl | rfl <;> rw [UInt8.toNat_ofNat'] at hlt <;> omega
    · split at hb
      · simp only [List.mem_cons, List.not_mem_nil, or_false] at hb
        rcases hb with rfl | rfl | rfl <;> rw [UInt8.toNat_ofNat'] at hlt <;> omega
      · simp only [List.mem_cons, List.not_mem_nil, or_false] at hb
        rcases hb with rfl | rfl | rfl | rfl <;> rw [UInt8.toNat_ofNat'] at hlt <;> omega

/-! ## Decoding -/

/-- The octet of six bits inside a character. -/
def continuation (bits : Nat) : UInt8 := UInt8.ofNat (bits + 0x80)

theorem lead_two : ∀ n < 32, 2 ≤ n →
    lead (UInt8.ofNat (n + 0xC0)) = some (.inr (.inside 0 0x80 0xBF n)) := by
  decide

theorem lead_three : ∀ n < 16, lead (UInt8.ofNat (n + 0xE0)) =
    some (.inr (.inside 1 (if n = 0 then 0xA0 else 0x80) (if n = 13 then 0x9F else 0xBF) n)) := by
  decide

theorem lead_four : ∀ n < 5, lead (UInt8.ofNat (n + 0xF0)) =
    some (.inr (.inside 2 (if n = 0 then 0x90 else 0x80) (if n = 4 then 0x8F else 0xBF) n)) := by
  decide

variable {owed value bits : Nat} {low high : UInt8} {s : State} {b : UInt8}

theorem scan_of_lead (h : lead b = some (.inr s)) (rest : List UInt8) :
    scan .start (b :: rest) = scan s rest := by
  rw [scan, step, enter, h]
  rfl

/-- An octet between the bounds continues the character. -/
theorem step_continuation (hbits : bits < 64)
    (hbounds : low.toNat ≤ bits + 0x80 ∧ bits + 0x80 ≤ high.toNat) :
    step (.inside owed low high value) (continuation bits) =
      match owed with
      | 0 => ([some (Char.ofNat (value * 64 + bits))], .start)
      | owed + 1 => ([], .inside owed 0x80 0xBF (value * 64 + bits)) := by
  have hnat : (continuation bits).toNat = bits + 0x80 := by
    rw [continuation, UInt8.toNat_ofNat', Nat.mod_eq_of_lt (by omega)]
  have hwithin : low ≤ continuation bits ∧ continuation bits ≤ high := by
    rw [UInt8.le_iff_toNat_le, UInt8.le_iff_toNat_le, hnat]
    exact hbounds
  cases owed <;> rw [step, if_pos hwithin, hnat, Nat.add_sub_cancel]

theorem scan_last (hbits : bits < 64)
    (hbounds : low.toNat ≤ bits + 0x80 ∧ bits + 0x80 ≤ high.toNat) (rest : List UInt8) :
    scan (.inside 0 low high value) (continuation bits :: rest) =
      some (Char.ofNat (value * 64 + bits)) :: scan .start rest := by
  rw [scan, step_continuation hbits hbounds]
  rfl

theorem scan_more (hbits : bits < 64)
    (hbounds : low.toNat ≤ bits + 0x80 ∧ bits + 0x80 ≤ high.toNat) (rest : List UInt8) :
    scan (.inside (owed + 1) low high value) (continuation bits :: rest) =
      scan (.inside owed 0x80 0xBF (value * 64 + bits)) rest := by
  rw [scan, step_continuation hbits hbounds]
  rfl

/-- Any six bits may stand in an octet that is not bounded further. -/
theorem within_all (hbits : bits < 64) :
    (0x80 : UInt8).toNat ≤ bits + 0x80 ∧ bits + 0x80 ≤ (0xBF : UInt8).toNat :=
  ⟨Nat.le_add_left _ _, Nat.add_le_add_right (Nat.le_of_lt_succ hbits) _⟩

/-- The octets of a character are read as the character. -/
theorem scan_utf8EncodeChar (c : Char) (rest : List UInt8) :
    scan .start (String.utf8EncodeChar c ++ rest) = some c :: scan .start rest := by
  have hofNat {n : Nat} (h : n = c.val.toNat) : Char.ofNat n = c := h ▸ Char.ofNat_toNat c
  have hvalid : c.val.toNat < 0xD800 ∨ 0xDFFF < c.val.toNat ∧ c.val.toNat < 0x110000 := c.valid
  have hbits (n : Nat) : n % 64 < 64 := Nat.mod_lt n (by decide)
  unfold String.utf8EncodeChar
  dsimp only
  generalize c.val.toNat = v at hofNat hvalid
  split
  · next hone =>
    have hlead : lead (UInt8.ofNat v) = some (.inl c) := by
      have hnat : (UInt8.ofNat v).toNat = v := by
        rw [UInt8.toNat_ofNat', Nat.mod_eq_of_lt (by omega)]
      have hlt : UInt8.ofNat v < 0x80 := by
        rw [UInt8.lt_iff_toNat_lt, hnat]
        exact Nat.lt_succ_of_le hone
      rw [lead, if_pos hlt, hnat, hofNat rfl]
    rw [List.singleton_append, scan, step, enter, hlead]
    rfl
  · split
    · next hone htwo =>
      refine (scan_of_lead
        (lead_two (v / 64 % 32) (Nat.mod_lt _ (by decide)) (by omega)) _).trans ?_
      refine (scan_last (hbits v) (within_all (hbits v)) rest).trans ?_
      rw [hofNat (by omega)]
    · split
      · next hone htwo hthree =>
        refine (scan_of_lead (lead_three (v / 4096 % 16) (Nat.mod_lt _ (by decide))) _).trans ?_
        refine (scan_more (hbits _) ?_ _).trans ?_
        · split_ifs <;> simp <;> omega
        · refine (scan_last (hbits v) (within_all (hbits v)) rest).trans ?_
          rw [hofNat (by omega)]
      · next hone htwo hthree =>
        refine (scan_of_lead (lead_four (v / 262144 % 8) (by omega)) _).trans ?_
        refine (scan_more (hbits _) ?_ _).trans ?_
        · split_ifs <;> simp <;> omega
        · refine (scan_more (hbits _) (within_all (hbits _)) _).trans ?_
          refine (scan_last (hbits v) (within_all (hbits v)) rest).trans ?_
          rw [hofNat (by omega)]

theorem scan_encode (text : List Char) : scan .start (encode text) = text.map some := by
  induction text with
  | nil => rfl
  | cons c text ih => rw [encode_cons, scan_utf8EncodeChar, ih, List.map_cons]

/-- What is encoded is decoded. -/
theorem decode?_encode (text : List Char) : decode? (encode text) = some text := by
  rw [decode?, scan_encode, List.mapM_map]
  simpa using List.mapM_pure (m := Option) (l := text) (f := id)

theorem decodeLossy_encode (text : List Char) : decodeLossy (encode text) = text := by
  rw [decodeLossy, scan_encode, List.map_map]
  exact List.map_id text

/-! ## ASCII after other octets -/

theorem scan_cons (s : State) (b : UInt8) (rest : List UInt8) :
    scan s (b :: rest) = (step s b).1 ++ scan (step s b).2 rest := by
  cases s <;> rfl

/-- No octet of ASCII continues a character. -/
def State.BeyondAscii : State → Prop
  | start => True
  | inside _ low _ _ => 0x80 ≤ low

theorem beyondAscii_of_lead (h : lead b = some (.inr s)) : s.BeyondAscii := by
  unfold lead at h
  split_ifs at h <;> cases h <;> change (0x80 : UInt8) ≤ _ <;> decide

theorem beyondAscii_enter (b : UInt8) : (enter b).2.BeyondAscii := by
  unfold enter
  split
  · trivial
  · next h => exact beyondAscii_of_lead h
  · trivial

theorem beyondAscii_step (s : State) (b : UInt8) : (step s b).2.BeyondAscii := by
  cases s with
  | start => exact beyondAscii_enter b
  | inside owed low high value =>
    rw [step]
    by_cases hwithin : low ≤ b ∧ b ≤ high
    · rw [if_pos hwithin]
      cases owed with
      | zero => exact True.intro
      | succ owed => exact UInt8.le_refl 0x80
    · rw [if_neg hwithin]
      exact beyondAscii_enter b

theorem enter_ascii (hb : b < 0x80) : enter b = ([some (Char.ofNat b.toNat)], .start) := by
  rw [enter, lead, if_pos hb]

/-- A character that an octet of ASCII interrupts leaves a gap. -/
theorem step_ascii (hb : b < 0x80) (hs : s.BeyondAscii) :
    step s b = (scan s [] ++ [some (Char.ofNat b.toNat)], .start) := by
  cases s with
  | start => exact enter_ascii hb
  | inside owed low high value =>
    have hlow : ¬(low ≤ b ∧ b ≤ high) := fun h =>
      UInt8.not_le.2 hb (UInt8.le_trans hs h.1)
    rw [step, if_neg hlow, enter_ascii hb]
    rfl

theorem scan_concat (hb : b < 0x80) (hs : s.BeyondAscii) (bytes : List UInt8) :
    scan s (bytes ++ [b]) = scan s bytes ++ [some (Char.ofNat b.toNat)] := by
  induction bytes generalizing s with
  | nil =>
    rw [List.nil_append, scan_cons, step_ascii hb hs]
    exact List.append_nil _
  | cons d bytes ih =>
    rw [List.cons_append, scan_cons, scan_cons, ih (beyondAscii_step s d), List.append_assoc]

theorem decode?_concat (hb : b < 0x80) (bytes : List UInt8) :
    decode? (bytes ++ [b]) = (decode? bytes).map (· ++ [Char.ofNat b.toNat]) := by
  have hstart : State.start.BeyondAscii := True.intro
  rw [decode?, decode?, scan_concat hb hstart, List.mapM_append]
  cases (scan .start bytes).mapM id <;> rfl

end ApiCli.Utf8

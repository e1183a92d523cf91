import ApiCli.Proofs.Text.Utf8
import ApiCli.Text.Percent

/-!
# Encoded components

A component that has been percent-encoded consists of unreserved characters and percent signs
alone, and its octets decode to those of the text it encodes. The octet of a dot is never written:
a dot is unreserved.
-/

namespace ApiCli

namespace Percent

theorem isUnreserved_upperHexDigit : ∀ n < 16, isUnreserved (Text.upperHexDigit n) = true := by
  decide

theorem utf8EncodeChar_upperHexDigit : ∀ n < 16, String.utf8EncodeChar (Text.upperHexDigit n) =
    [UInt8.ofNat (Text.upperHexDigit n).toNat] := by
  decide

theorem hexValue?_upperHexDigit : ∀ n < 16,
    hexValue? (UInt8.ofNat (Text.upperHexDigit n).toNat) = some n := by
  decide

/-! ## Decoding -/

theorem decode_cons_of_ne {b : UInt8} (h : b ≠ 37) (rest : List UInt8) :
    decode (b :: rest) = b :: decode rest := by
  match rest with
  | [] => rfl
  | [c] => rfl
  | c :: d :: rest => simp [decode, escaped?, h]

/-- The written form of an octet is read back. -/
theorem decode_encodeByte (b : UInt8) (rest : List UInt8) :
    decode (Utf8.encode (encodeByte b) ++ rest) = b :: decode rest := by
  have hb : b.toNat < 256 := b.toNat_lt
  have hhigh : b.toNat / 16 < 16 := by omega
  have hlow : b.toNat % 16 < 16 := by omega
  have hoctets : Utf8.encode (encodeByte b) = [37,
      UInt8.ofNat (Text.upperHexDigit (b.toNat / 16)).toNat,
      UInt8.ofNat (Text.upperHexDigit (b.toNat % 16)).toNat] := by
    rw [encodeByte, Utf8.encode_cons, Utf8.encode_cons, Utf8.encode_cons,
      utf8EncodeChar_upperHexDigit _ hhigh, utf8EncodeChar_upperHexDigit _ hlow]
    rfl
  have hescaped : escaped? 37 (UInt8.ofNat (Text.upperHexDigit (b.toNat / 16)).toNat)
      (UInt8.ofNat (Text.upperHexDigit (b.toNat % 16)).toNat) = some b := by
    unfold escaped?
    rw [hexValue?_upperHexDigit _ hhigh, hexValue?_upperHexDigit _ hlow]
    change some (UInt8.ofNat (b.toNat / 16 * 16 + b.toNat % 16)) = some b
    rw [Nat.div_add_mod', UInt8.ofNat_toNat]
  rw [hoctets]
  simp only [List.cons_append, List.nil_append, decode, hescaped]

theorem decode_flatMap_encodeByte (bytes rest : List UInt8) :
    decode (Utf8.encode (bytes.flatMap encodeByte) ++ rest) = bytes ++ decode rest := by
  induction bytes with
  | nil => rfl
  | cons b bytes ih =>
    rw [List.flatMap_cons, Utf8.encode_append, List.append_assoc, decode_encodeByte, ih]
    rfl

/-- An octet that is no digit is not part of a written one at the end. -/
theorem decode_concat {b : UInt8} (h : hexValue? b = none) (bytes : List UInt8) :
    decode (bytes ++ [b]) = decode bytes ++ [b] := by
  induction bytes using decode.induct with
  | case1 c d e rest octet hescaped ih =>
    simp only [List.cons_append, decode, hescaped]
    rw [ih]
  | case2 c d e rest hescaped ih =>
    simp only [List.cons_append, decode, hescaped]
    rw [← ih, List.cons_append, List.cons_append]
  | case3 short hshort =>
    rcases short with _ | ⟨c, _ | ⟨d, _ | ⟨e, rest⟩⟩⟩
    · rfl
    · rfl
    · have hescaped : escaped? c d b = none := by simp [escaped?, h]
      simp [decode, hescaped]
    · exact (hshort c d e rest rfl).elim

theorem lt_of_isUnreserved {c : Char} (h : isUnreserved c = true) : c.toNat < 128 := by
  unfold isUnreserved at h
  simp only [Bool.or_eq_true, decide_eq_true_eq] at h
  rcases h with (((h | rfl) | rfl) | rfl) | rfl
  · exact Utf8.lt_of_isAlphanum h
  all_goals decide

theorem octet_ne {c : Char} (hlt : c.toNat < 128) (hne : c ≠ '%') :
    UInt8.ofNat c.toNat ≠ 37 := by
  intro heq
  apply hne
  have hnat : c.toNat = 37 := by
    simpa [UInt8.toNat_ofNat', Nat.mod_eq_of_lt (show c.toNat < 256 by omega)] using
      congrArg UInt8.toNat heq
  rw [← Char.ofNat_toNat c, hnat]

/-- The octets of an encoded component are those of the text. -/
theorem decode_encodeComponent (s : String) :
    decode (Utf8.encode (encodeComponent s).toList) = Utf8.encode s.toList := by
  rw [encodeComponent, String.toList_ofList]
  induction s.toList with
  | nil => rfl
  | cons c rest ih =>
    rw [encode, List.flatMap_cons, ← encode, Utf8.encode_append, Utf8.encode_cons]
    split
    · rw [encodeChar, decode_flatMap_encodeByte, ih]
    · next hc =>
      have hunreserved : isUnreserved c = true := by simpa using hc
      have hlt := lt_of_isUnreserved hunreserved
      have hne : c ≠ '%' := by
        rintro rfl
        exact absurd hunreserved (by decide)
      rw [Utf8.encode_cons, Utf8.utf8EncodeChar_ascii hlt, List.append_assoc]
      exact (decode_cons_of_ne (octet_ne hlt hne) _).trans (congrArg _ ih)

/-! ## The characters of a component -/

theorem mem_encodeComponent {s : String} {c : Char} (h : c ∈ (encodeComponent s).toList) :
    isUnreserved c = true ∨ c = '%' := by
  rw [encodeComponent, String.toList_ofList, encode] at h
  obtain ⟨d, -, hd⟩ := List.mem_flatMap.1 h
  split at hd
  · obtain ⟨b, -, hb⟩ := List.mem_flatMap.1 hd
    have hbound : b.toNat < 256 := b.toNat_lt
    rcases List.mem_cons.1 hb with rfl | hb
    · exact .inr rfl
    · simp only [List.mem_cons, List.not_mem_nil, or_false] at hb
      rcases hb with rfl | rfl
      · exact .inl (isUnreserved_upperHexDigit _ (by omega))
      · exact .inl (isUnreserved_upperHexDigit _ (by omega))
  · next hreserved =>
    obtain rfl := List.mem_singleton.1 hd
    exact .inl (by simpa using hreserved)

/-- A text of unreserved characters is its own encoded form. -/
theorem encodeComponent_of_unreserved {s : String} (h : ∀ c ∈ s.toList, isUnreserved c = true) :
    encodeComponent s = s := by
  have hencode : encode (fun c => !isUnreserved c) s.toList = s.toList := by
    generalize s.toList = chars at h
    induction chars with
    | nil => rfl
    | cons c rest ih =>
      rw [encode, List.flatMap_cons, ← encode, ih fun d hd => h d (List.mem_cons_of_mem _ hd)]
      simp [h c List.mem_cons_self]
  rw [encodeComponent, hencode, String.ofList_toList]

end Percent
end ApiCli

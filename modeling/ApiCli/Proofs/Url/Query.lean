import ApiCli.Proofs.Text.Percent
import ApiCli.Proofs.Text.Split
import ApiCli.Proofs.Url.Parse
import ApiCli.Url.Query

/-!
# Reading queries

A query is read as pairs of names and values, each by the octets it stands for.

* `formOctets_formText`: a name or value that was written as text of a web form reads as itself.
* `mem_formText`: such a text has none of the characters that divide a query.

**Pairs of a query** (`queryPairs_addPairs`): the pairs that are added to a URL are read from it in
order, after those it had.
-/

namespace ApiCli.Url

/-- The octets that a name or value stands for. A plus sign is a blank. -/
def formOctets (s : List Char) : List UInt8 :=
  Percent.decode (Utf8.encode (s.map fun c => if c = '+' then ' ' else c))

/-- The pair of a part of a query; what follows the first equals sign is the value. -/
def pairOctets (part : List Char) : List UInt8 × List UInt8 :=
  (formOctets (Text.breakAt '=' part).1, formOctets ((Text.breakAt '=' part).2.getD []))

/-- The pairs of a query; an empty part is none. -/
def pairsOf (query : List Char) : List (List UInt8 × List UInt8) :=
  ((Text.splitChars '&' query).filter fun part => !part.isEmpty).map pairOctets

def queryPairs (u : Url) : List (List UInt8 × List UInt8) := pairsOf (u.query.getD "").toList

/-! ## Names and values -/

theorem formOctets_cons (c : Char) (s : List Char) : formOctets (c :: s) =
    Percent.decode (Utf8.encode [if c = '+' then ' ' else c] ++
      Utf8.encode (s.map fun c => if c = '+' then ' ' else c)) := by
  rw [← Utf8.encode_append]
  rfl

/-- A character that neither escapes nor stands for another one reads as its octet. -/
theorem formOctets_cons_of_ascii {c : Char} (hlt : c.toNat < 128) (hplus : c ≠ '+')
    (hpercent : c ≠ '%') (s : List Char) :
    formOctets (c :: s) = String.utf8EncodeChar c ++ formOctets s := by
  rw [formOctets_cons, if_neg hplus, Utf8.encode_cons, Utf8.utf8EncodeChar_ascii hlt]
  exact Percent.decode_cons_of_ne (Percent.octet_ne hlt hpercent) _

theorem formOctets_blank (s : List Char) :
    formOctets ('+' :: s) = String.utf8EncodeChar ' ' ++ formOctets s := by
  rw [formOctets_cons, if_pos rfl]
  exact Percent.decode_cons_of_ne (by decide) _

theorem plus_notMem_encodeChar (c : Char) : '+' ∉ Percent.encodeChar c := by
  intro hmem
  obtain ⟨b, -, hb⟩ := List.mem_flatMap.1 hmem
  have hdigit (n : Nat) (hn : n < 16) : '+' ≠ Text.upperHexDigit n := by
    intro heq
    exact absurd (heq ▸ Percent.isUnreserved_upperHexDigit n hn) (by decide)
  have hlt : b.toNat < 256 := b.toNat_lt
  simp only [Percent.encodeByte, List.mem_cons, List.not_mem_nil, or_false] at hb
  rcases hb with h | h | h
  · exact absurd h (by decide)
  · exact hdigit _ (by omega) h
  · exact hdigit _ (by omega) h

theorem formOctets_encodeChar (c : Char) (s : List Char) :
    formOctets (Percent.encodeChar c ++ s) = String.utf8EncodeChar c ++ formOctets s := by
  have hsame : (Percent.encodeChar c).map (fun c => if c = '+' then ' ' else c) =
      Percent.encodeChar c := by
    refine (List.map_congr_left fun d hd => ?_).trans (List.map_id _)
    rw [if_neg]
    · rfl
    · rintro rfl
      exact plus_notMem_encodeChar c hd
  rw [formOctets, List.map_append, hsame, Utf8.encode_append]
  exact Percent.decode_flatMap_encodeByte _ _

theorem formOctets_formChar (c : Char) (s : List Char) :
    formOctets (formChar c ++ s) = String.utf8EncodeChar c ++ formOctets s := by
  unfold formChar
  split
  · next hblank => exact hblank ▸ formOctets_blank s
  · split
    · next hplain =>
      have hcases : Percent.isUnreserved c = true ∨ c = '*' := by
        simp only [Bool.or_eq_true, decide_eq_true_eq] at hplain
        simp only [Percent.isUnreserved, Bool.or_eq_true, decide_eq_true_eq]
        rcases hplain with ((((h | h) | h) | h) | h) <;> simp [h]
      have hlt : c.toNat < 128 := by
        rcases hcases with h | rfl
        · exact Percent.lt_of_isUnreserved h
        · decide
      refine formOctets_cons_of_ascii hlt ?_ ?_ s
      · rintro rfl
        exact absurd hplain (by decide)
      · rintro rfl
        exact absurd hplain (by decide)
    · exact formOctets_encodeChar c s

theorem formOctets_formText (s : String) :
    formOctets (formText s).toList = Utf8.encode s.toList := by
  rw [formText, String.toList_ofList]
  induction s.toList with
  | nil => rfl
  | cons c rest ih => rw [List.flatMap_cons, formOctets_formChar, ih, Utf8.encode_cons]

theorem mem_formText {s : String} {c : Char} (h : c ∈ (formText s).toList) :
    Percent.isUnreserved c = true ∨ c = '+' ∨ c = '*' ∨ c = '%' := by
  rw [formText, String.toList_ofList] at h
  obtain ⟨d, -, hd⟩ := List.mem_flatMap.1 h
  unfold formChar at hd
  split at hd
  · exact .inr (.inl (List.mem_singleton.1 hd))
  · split at hd
    · next hplain =>
      obtain rfl := List.mem_singleton.1 hd
      simp only [Bool.or_eq_true, decide_eq_true_eq] at hplain
      simp only [Percent.isUnreserved, Bool.or_eq_true, decide_eq_true_eq]
      rcases hplain with ((((h | h) | h) | h) | h) <;> simp [h]
    · obtain ⟨b, -, hb⟩ := List.mem_flatMap.1 hd
      have hlt : b.toNat < 256 := b.toNat_lt
      simp only [Percent.encodeByte, List.mem_cons, List.not_mem_nil, or_false] at hb
      rcases hb with rfl | rfl | rfl
      · exact .inr (.inr (.inr rfl))
      · exact .inl (Percent.isUnreserved_upperHexDigit _ (by omega))
      · exact .inl (Percent.isUnreserved_upperHexDigit _ (by omega))

/-! ## Pairs -/

theorem pairsOf_append (query rest : List Char) :
    pairsOf (query ++ '&' :: rest) = pairsOf query ++ pairsOf rest := by
  rw [pairsOf, Text.splitChars_append, List.filter_append, List.map_append]
  rfl

/-- The octets of a pair. -/
def octets (p : String × String) : List UInt8 × List UInt8 :=
  (Utf8.encode p.1.toList, Utf8.encode p.2.toList)

theorem pairsOf_formPair (p : String × String) : pairsOf (formPair p).toList = [octets p] := by
  have hname : '=' ∉ (formText p.1).toList := fun h => absurd (mem_formText h) (by decide)
  have hamp (s : String) : '&' ∉ (formText s).toList := fun h => absurd (mem_formText h) (by decide)
  have htext : (formPair p).toList = (formText p.1).toList ++ '=' :: (formText p.2).toList := by
    simp [formPair]
  have hnone : '&' ∉ (formPair p).toList := by
    rw [htext]
    simp [hamp]
  rw [pairsOf, Text.splitChars_of_notMem hnone, htext]
  simp [pairOctets, Text.breakAt_append hname, formOctets_formText, octets]

theorem pairsOf_intercalate (pairs : List (String × String)) :
    pairsOf ("&".intercalate (pairs.map formPair)).toList = pairs.map octets := by
  induction pairs with
  | nil => rfl
  | cons p pairs ih =>
    cases pairs with
    | nil => rw [List.map_singleton, String.intercalate_singleton, pairsOf_formPair]; rfl
    | cons q pairs =>
      rw [List.map_cons, List.map_cons, String.intercalate_cons_cons, ← List.map_cons]
      have htext : (formPair p ++ "&" ++ "&".intercalate ((q :: pairs).map formPair)).toList =
          (formPair p).toList ++ '&' :: ("&".intercalate ((q :: pairs).map formPair)).toList := by
        simp
      rw [htext, pairsOf_append, pairsOf_formPair, ih]
      rfl

/-- Pairs that are added to a URL change its query alone. -/
theorem addPairs_path (u : Url) (pairs : List (String × String)) :
    (u.addPairs pairs).path = u.path ∧ (u.addPairs pairs).authority = u.authority ∧
      (u.addPairs pairs).scheme = u.scheme := by
  unfold addPairs
  dsimp only
  split
  · exact ⟨rfl, rfl, rfl⟩
  · split <;> exact ⟨rfl, rfl, rfl⟩

/-- Pairs that are added to a URL are read from its query, after those that were there. -/
theorem queryPairs_addPairs (u : Url) (pairs : List (String × String)) :
    (u.addPairs pairs).queryPairs = u.queryPairs ++ pairs.map octets := by
  unfold addPairs
  split
  · next hnone =>
    rw [List.isEmpty_iff.1 hnone, List.map_nil, List.append_nil]
  · dsimp only
    split
    · next h =>
      have hempty : u.queryPairs = [] := by
        rw [queryPairs, h]
        rfl
      rw [hempty]
      exact pairsOf_intercalate pairs
    · next h =>
      have hempty : u.queryPairs = [] := by
        rw [queryPairs, h]
        rfl
      rw [hempty]
      exact pairsOf_intercalate pairs
    · next query _ hquery =>
      have htext : (query ++ "&" ++ "&".intercalate (pairs.map formPair)).toList =
          query.toList ++ '&' :: ("&".intercalate (pairs.map formPair)).toList := by
        simp
      rw [queryPairs, Option.getD_some, htext, pairsOf_append, pairsOf_intercalate]
      rw [queryPairs, hquery, Option.getD_some]

end ApiCli.Url

import ApiCli.Proofs.Json.Canonical
import ApiCli.Proofs.Json.Parsed
import ApiCli.Proofs.Json.Reread

/-!
# Literal values

An object whose text has `numberKey` in front stands for a number or for nothing. A value is literal
if it has no such object.

* Merging literal values gives a literal value (`Literal.merge`).
* `valueWithin?_asWritten_iff`: what a canonical value writes is read as the value if and only if
  the value is literal and not nested too deep.
* `canonical_of_valueWithin?`: whatever it is read as, its members are in order.
-/

namespace ApiCli

namespace Json

variable {key : String} {fields members merged : List (String × Json)}

/-! ## Literal values -/

/-- `numberKey` is not the least key. -/
def NotNumber (members : List (String × Json)) : Prop :=
  numberKey ∈ members.map (·.1) → ∃ key ∈ members.map (·.1), key < numberKey

/-- No object of a value has `numberKey` in front when its members are put in order. -/
def Literal (v : Json) : Prop := v.Everywhere NotNumber

theorem literal_singleton {value : Json} (hkey : key ≠ numberKey) (h : value.Literal) :
    (object [(key, value)]).Literal :=
  ⟨fun hmem => absurd (List.mem_singleton.1 hmem).symm hkey, h, trivial⟩

theorem mem_keys_addMissing : key ∈ (addMissing fields merged).map (·.1) ↔
    key ∈ fields.map (·.1) ∨ key ∈ merged.map (·.1) := by
  rw [← Dict.isSome_find_iff, ← Dict.isSome_find_iff, ← Dict.isSome_find_iff, find_addMissing,
    Option.isSome_or, Bool.or_eq_true, or_comm]

theorem mergeClosed_notNumber : MergeClosed NotNumber := by
  intro fields members hfields hmembers hkey
  simp only [mem_keys_addMissing, keys_mergeMembers] at hkey ⊢
  rcases hkey with hkey | hkey
  · obtain ⟨key, hmem, hlt⟩ := hfields hkey
    exact ⟨key, .inl hmem, hlt⟩
  · obtain ⟨key, hmem, hlt⟩ := hmembers hkey
    exact ⟨key, .inr hmem, hlt⟩

/-- Merging literal values gives a literal value. -/
theorem Literal.merge {base patch : Json} (hbase : base.Literal) (hpatch : patch.Literal) :
    (merge base patch).Literal :=
  Everywhere.merge mergeClosed_notNumber hbase hpatch

/-- Members in key order stand for their object unless `numberKey` is in front. -/
theorem ofMembers?_eq_object_iff (h : KeysIncrease members) :
    ofMembers? members = some (object members) ↔ NotNumber members := by
  cases members with
  | nil => simp [ofMembers?, NotNumber]
  | cons m rest =>
    obtain ⟨first, value⟩ := m
    obtain ⟨hfirst, -⟩ := List.pairwise_cons.1 h
    by_cases hkey : first = numberKey
    · subst hkey
      refine iff_of_false (fun hread => ?_) fun hnot => ?_
      · -- Such members stand for a number, if for anything.
        unfold ofMembers? at hread
        dsimp only at hread
        rw [if_pos rfl] at hread
        split at hread
        · obtain ⟨kept, -, heq⟩ := Option.map_eq_some_iff.1 hread
          cases heq
        · cases hread
      · obtain ⟨key, hmem, hlt⟩ := hnot List.mem_cons_self
        rcases List.mem_cons.1 hmem with rfl | hmem
        · exact String.lt_irrefl _ hlt
        · obtain ⟨m, hm, rfl⟩ := List.mem_map.1 hmem
          exact String.lt_asymm hlt (hfirst m hm)
    · unfold ofMembers?
      dsimp only
      rw [if_neg hkey]
      refine iff_of_true rfl fun hmem => ⟨first, List.mem_cons_self, ?_⟩
      obtain ⟨m, hm, heq⟩ := List.mem_map.1 ((List.mem_cons.1 hmem).resolve_left (Ne.symm hkey))
      exact heq ▸ hfirst m hm

/-! ## Reading written values -/

mutual

theorem valueWithin?_asWritten_iff : (limit : Nat) → (v : Json) → v.Canonical →
    (v.asWritten.valueWithin? limit = some v ↔ v.Everywhere NotNumber ∧ v.depth ≤ limit)
  | _, null, _ | _, bool _, _ => iff_of_true rfl ⟨trivial, Nat.zero_le _⟩
  | _, number text, _ =>
    iff_of_true (congrArg (some ∘ number) String.ofList_toList) ⟨trivial, Nat.zero_le _⟩
  | _, string s, _ => by
    refine iff_of_true ?_ ⟨trivial, Nat.zero_le _⟩
    rw [asWritten, Written.valueWithin?, unquote?_escape, Option.map_some]
  | 0, array _, _ | 0, object _, _ => by
    refine iff_of_false (fun h => ?_) fun h => Nat.not_succ_le_zero _ h.2
    rw [asWritten, Written.valueWithin?] at h
    cases h
  | limit + 1, array items, h => by
    rw [asWritten, Written.valueWithin?, Option.map_eq_some_iff]
    simp only [array.injEq, exists_eq_right]
    rw [itemsWithin?_asWritten_iff limit items h]
    exact and_congr_right' Nat.succ_le_succ_iff.symm
  | limit + 1, object members, h => by
    rw [asWritten, Written.valueWithin?, Option.bind_eq_some_iff]
    have hmembers := membersWithin?_asWritten_iff limit members h.2
    have hobject := ofMembers?_eq_object_iff h.1
    refine ⟨fun ⟨values, hvalues, hread⟩ => ?_, fun ⟨⟨hnot, hliteral⟩, hdepth⟩ => ?_⟩
    · obtain rfl : values = members := by
        rcases ofMembers?_cases hread with heq | ⟨_, _, -, -, heq⟩
        · exact (object.inj heq).symm
        · cases heq
      obtain ⟨hliteral, hdepth⟩ := hmembers.1 hvalues
      exact ⟨⟨hobject.1 hread, hliteral⟩, Nat.succ_le_succ hdepth⟩
    · exact ⟨members, hmembers.2 ⟨hliteral, Nat.le_of_succ_le_succ hdepth⟩, hobject.2 hnot⟩

theorem itemsWithin?_asWritten_iff : (limit : Nat) → (items : List Json) → CanonicalItems items →
    (Written.itemsWithin? limit (asWrittenItems items) = some items ↔
      EverywhereItems NotNumber items ∧ depthItems items ≤ limit)
  | _, [], _ => iff_of_true rfl ⟨trivial, Nat.zero_le _⟩
  | limit, item :: rest, h => by
    have hitem := valueWithin?_asWritten_iff limit item h.1
    have hrest := itemsWithin?_asWritten_iff limit rest h.2
    rw [asWrittenItems, Written.itemsWithin?, EverywhereItems, depthItems, Nat.max_le,
      and_and_and_comm, ← hitem, ← hrest]
    cases item.asWritten.valueWithin? limit with
    | none => simp
    | some value => simp [and_comm]

theorem membersWithin?_asWritten_iff : (limit : Nat) → (members : List (String × Json)) →
    CanonicalMembers members →
      (Written.membersWithin? limit (asWrittenMembers members) = some members ↔
        EverywhereMembers NotNumber members ∧ depthMembers members ≤ limit)
  | _, [], _ => iff_of_true rfl ⟨trivial, Nat.zero_le _⟩
  | limit, (key, value) :: rest, h => by
    have hvalue := valueWithin?_asWritten_iff limit value h.1
    have hrest := membersWithin?_asWritten_iff limit rest h.2
    rw [asWrittenMembers, Written.membersWithin?, unquote?_escape, EverywhereMembers, depthMembers,
      Nat.max_le, and_and_and_comm, ← hvalue, ← hrest]
    cases value.asWritten.valueWithin? limit with
    | none => simp
    | some value' => simp [and_comm]

end

theorem keysIncrease_of_readBack {values : List (String × Json)}
    (h : List.Forall₂ ReadBack members values) (hkeys : KeysIncrease members) :
    KeysIncrease values := by
  rw [Dict.keysIncrease_iff, keys_of_readBack h, ← Dict.keysIncrease_iff]
  exact hkeys

mutual

/-- What is read of a canonical value is canonical before its members are put in order. -/
theorem canonical_of_valueWithin? : (limit : Nat) → (v : Json) → v.Canonical → {j : Json} →
    v.asWritten.valueWithin? limit = some j → j.Canonical
  | _, null, _, _, h | _, bool _, _, _, h | _, number _, _, _, h => by
    cases h
    trivial
  | _, string s, _, _, h => by
    obtain ⟨-, -, rfl⟩ := Option.map_eq_some_iff.1 h
    trivial
  | 0, array _, _, _, h | 0, object _, _, _, h => by
    rw [asWritten, Written.valueWithin?] at h
    cases h
  | limit + 1, array items, hv, _, h => by
    obtain ⟨values, hvalues, rfl⟩ := Option.map_eq_some_iff.1 h
    exact canonicalItems_of_itemsWithin? limit items hv hvalues
  | limit + 1, object members, hv, _, h => by
    obtain ⟨values, hvalues, hread⟩ := Option.bind_eq_some_iff.1 h
    rcases ofMembers?_cases hread with rfl | ⟨_, _, -, -, rfl⟩
    · exact ⟨keysIncrease_of_readBack (readBack_of_membersWithin? limit members hvalues) hv.1,
        canonicalMembers_of_membersWithin? limit members hv.2 hvalues⟩
    · trivial

theorem canonicalItems_of_itemsWithin? : (limit : Nat) → (items : List Json) →
    CanonicalItems items → {values : List Json} →
      Written.itemsWithin? limit (asWrittenItems items) = some values → CanonicalItems values
  | _, [], _, _, h => by
    cases h
    trivial
  | limit, item :: rest, hv, _, h => by
    obtain ⟨value, values, hvalue, hvalues, rfl⟩ := Written.itemsWithin?_cons h
    exact ⟨canonical_of_valueWithin? limit item hv.1 hvalue,
      canonicalItems_of_itemsWithin? limit rest hv.2 hvalues⟩

theorem canonicalMembers_of_membersWithin? : (limit : Nat) → (members : List (String × Json)) →
    CanonicalMembers members → {values : List (String × Json)} →
      Written.membersWithin? limit (asWrittenMembers members) = some values →
        CanonicalMembers values
  | _, [], _, _, h => by
    cases h
    trivial
  | limit, (key, v) :: rest, hv, _, h => by
    obtain ⟨name, value, values, -, hvalue, hvalues, rfl⟩ := Written.membersWithin?_cons h
    exact ⟨canonical_of_valueWithin? limit v hv.1 hvalue,
      canonicalMembers_of_membersWithin? limit rest hv.2 hvalues⟩

end

end Json
end ApiCli

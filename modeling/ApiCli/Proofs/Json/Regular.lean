import ApiCli.Proofs.Json.Literal

/-!
# Values that come from texts

A value that is written and read again is the same value, unless one of its objects is not literal.

* `depth_le_of_valueWithin?`: nothing that is read is nested deeper than the limit, and
  `depth_merge_le`: merging nests nothing deeper than it is in one of the two values.
* `Regular` values are those that can stand in a text: they are canonical, their numbers are
  numerals, and they are not nested too deep. Values that are read are regular
  (`Regular.of_parse?`), and so are regular values that are merged (`Regular.merge`).

**Round trip** (`Regular.parse?_write_iff`): a regular value is read from its text if and only if it
is literal.
-/

namespace ApiCli

namespace Json

variable {members merged fields : List (String × Json)}

/-! ## Depth -/

namespace Written

mutual

theorem depth_le_of_valueWithin? : (limit : Nat) → (w : Written) → {v : Json} →
    w.valueWithin? limit = some v → v.depth ≤ limit
  | _, null, _, h | _, bool _, _, h | _, number _, _, h => by
    cases h
    exact Nat.zero_le _
  | _, string _, _, h => by
    obtain ⟨-, -, rfl⟩ := Option.map_eq_some_iff.1 h
    exact Nat.zero_le _
  | 0, array _, _, h | 0, object _, _, h => by
    rw [valueWithin?] at h
    cases h
  | limit + 1, array items, _, h => by
    rw [valueWithin?] at h
    obtain ⟨values, hvalues, rfl⟩ := Option.map_eq_some_iff.1 h
    exact Nat.succ_le_succ (depthItems_le_of_itemsWithin? limit items hvalues)
  | limit + 1, object members, _, h => by
    rw [valueWithin?] at h
    obtain ⟨values, hvalues, hread⟩ := Option.bind_eq_some_iff.1 h
    exact Nat.le_trans (depth_of_ofMembers?_le hread)
      (Nat.succ_le_succ (depthMembers_le_of_membersWithin? limit members hvalues))

theorem depthItems_le_of_itemsWithin? : (limit : Nat) → (items : List Written) →
    {values : List Json} → itemsWithin? limit items = some values → depthItems values ≤ limit
  | _, [], _, h => by
    cases h
    exact Nat.zero_le _
  | limit, item :: rest, _, h => by
    obtain ⟨value, values, hvalue, hvalues, rfl⟩ := itemsWithin?_cons h
    exact Nat.max_le.2 ⟨depth_le_of_valueWithin? limit item hvalue,
      depthItems_le_of_itemsWithin? limit rest hvalues⟩

theorem depthMembers_le_of_membersWithin? : (limit : Nat) →
    (members : List (List Char × Written)) → {values : List (String × Json)} →
      membersWithin? limit members = some values → depthMembers values ≤ limit
  | _, [], _, h => by
    cases h
    exact Nat.zero_le _
  | limit, (key, value) :: rest, _, h => by
    obtain ⟨name, v, values, -, hvalue, hvalues, rfl⟩ := membersWithin?_cons h
    exact Nat.max_le.2 ⟨depth_le_of_valueWithin? limit value hvalue,
      depthMembers_le_of_membersWithin? limit rest hvalues⟩

end

end Written

theorem depthMembers_addMissing_le (fields merged : List (String × Json)) :
    depthMembers (addMissing fields merged) ≤ max (depthMembers fields) (depthMembers merged) := by
  refine depthMembers_le_iff.2 fun m hm => ?_
  rcases mem_addMissing hm with hm | hm
  · exact Nat.le_trans (depthMembers_le_iff.1 (Nat.le_refl _) m hm) (Nat.le_max_left _ _)
  · exact Nat.le_trans (depthMembers_le_iff.1 (Nat.le_refl _) m hm) (Nat.le_max_right _ _)

theorem depth_of_find_le {value : Json} (h : value ∈ Dict.find key members) :
    value.depth ≤ depthMembers members :=
  depthMembers_le_iff.1 (Nat.le_refl _) _ (Dict.mem_of_find h)

mutual

theorem depth_mergeAt_le {limit : Nat} {patch : Option Json}
    (hpatch : ∀ p ∈ patch, p.depth ≤ limit) :
    (base : Json) → base.depth ≤ limit → (mergeAt patch base).depth ≤ limit
  | array items, hbase => by
    rcases patch with - | p
    · rwa [mergeAt_none]
    · have hp := hpatch p rfl
      cases p with
      | object fields =>
        rw [mergeAt]
        simp only [depth] at hp hbase ⊢
        have hitems : depthItems (mergeItems fields 0 items) ≤ limit - 1 :=
          depthItems_mergeItems_le (Nat.le_sub_one_of_lt hp) 0 items (Nat.le_sub_one_of_lt hbase)
        omega
      | _ => simpa only [mergeAt] using hp
  | object members, hbase => by
    rcases patch with - | p
    · rwa [mergeAt_none]
    · have hp := hpatch p rfl
      cases p with
      | object fields =>
        rw [mergeAt]
        simp only [depth] at hp hbase ⊢
        have hmembers : depthMembers (mergeMembers fields members) ≤ limit - 1 :=
          depthMembers_mergeMembers_le (Nat.le_sub_one_of_lt hp) members
            (Nat.le_sub_one_of_lt hbase)
        have hadded := depthMembers_addMissing_le fields (mergeMembers fields members)
        omega
      | _ => simpa only [mergeAt] using hbase
  | null, _ | bool _, _ | number _, _ | string _, _ => by
    rcases patch with - | p
    · exact Nat.zero_le _
    · exact hpatch p rfl

theorem depthItems_mergeItems_le {limit : Nat} {fields : List (String × Json)}
    (hfields : depthMembers fields ≤ limit) (index : Nat) :
    (items : List Json) → depthItems items ≤ limit →
      depthItems (mergeItems fields index items) ≤ limit
  | [], _ => Nat.zero_le _
  | item :: rest, h => by
    obtain ⟨hitem, hrest⟩ := Nat.max_le.1 h
    exact Nat.max_le.2
      ⟨depth_mergeAt_le (fun p hp => Nat.le_trans (depth_of_find_le hp) hfields) item hitem,
        depthItems_mergeItems_le hfields (index + 1) rest hrest⟩

theorem depthMembers_mergeMembers_le {limit : Nat} {fields : List (String × Json)}
    (hfields : depthMembers fields ≤ limit) :
    (members : List (String × Json)) → depthMembers members ≤ limit →
      depthMembers (mergeMembers fields members) ≤ limit
  | [], _ => Nat.zero_le _
  | (_, value) :: rest, h => by
    obtain ⟨hvalue, hrest⟩ := Nat.max_le.1 h
    exact Nat.max_le.2
      ⟨depth_mergeAt_le (fun p hp => Nat.le_trans (depth_of_find_le hp) hfields) value hvalue,
        depthMembers_mergeMembers_le hfields rest hrest⟩

end

/-- Merging nests nothing deeper than it is in one of the two values. -/
theorem depth_merge_le (base patch : Json) :
    (merge base patch).depth ≤ max base.depth patch.depth := by
  have hmerged : (mergeAt (some patch) base).depth ≤ max base.depth patch.depth := by
    refine depth_mergeAt_le (fun p hp => ?_) base (Nat.le_max_left _ _)
    obtain rfl := Option.some.inj hp
    exact Nat.le_max_right _ _
  unfold merge
  split
  · exact hmerged
  · exact hmerged
  · exact Nat.le_max_left _ _

/-! ## Regular values -/

/-- A value that can stand in a text. -/
structure Regular (v : Json) : Prop where
  canonical : v.Canonical
  /-- Its numbers are numerals. -/
  numerals : ∀ t ∈ v.numbers, IsNumeral t.toList
  depth_le : v.depth ≤ depthLimit

namespace Regular

variable {v base patch : Json}

theorem bool (b : Bool) : (bool b).Regular := ⟨trivial, List.forall_mem_nil _, Nat.zero_le _⟩

theorem number {text : String} (h : IsNumeral text.toList) : (number text).Regular :=
  ⟨trivial, List.forall_mem_singleton.2 h, Nat.zero_le _⟩

theorem singleton {key : String} (h : v.Regular) (hdepth : v.depth < depthLimit) :
    (object [(key, v)]).Regular where
  canonical := ⟨List.pairwise_singleton _ _, h.canonical, trivial⟩
  numerals t ht := h.numerals t (by simpa only [numbers, numbersMembers, List.append_nil] using ht)
  depth_le := Nat.succ_le_of_lt (Nat.max_lt.2 ⟨hdepth, by decide⟩)

/-- Some of the members of a regular object make up a regular object. -/
theorem sublist {rest : List (String × Json)} (h : (object members).Regular)
    (hrest : rest.Sublist members) : (object rest).Regular where
  canonical := ⟨h.canonical.1.sublist hrest, forall_canonical_iff.2 fun m hm =>
    forall_canonical_iff.1 h.canonical.2 m (hrest.subset hm)⟩
  numerals t ht := by
    obtain ⟨m, hm, ht⟩ := mem_numbersMembers.1 ht
    exact h.numerals t (mem_numbersMembers.2 ⟨m, hrest.subset hm, ht⟩)
  depth_le := by
    refine Nat.le_trans (Nat.succ_le_succ (depthMembers_le_iff.2 fun m hm => ?_)) h.depth_le
    exact depthMembers_le_iff.1 (Nat.le_refl _) m (hrest.subset hm)

theorem find {key : String} (h : (object members).Regular)
    (hv : Dict.find key members = some v) : v.Regular where
  canonical := h.canonical.2.find key v hv
  numerals t ht := h.numerals t (numbers_of_find hv ht)
  depth_le := Nat.le_trans (Nat.le_of_lt (depth_lt_of_mem (Dict.mem_of_find hv))) h.depth_le

theorem of_parse? {text : List Char} (h : parse? text = some v) : v.Regular := by
  have hnumerals := isNumeral_of_parse? h
  unfold parse? at h
  dsimp only at h
  split at h
  · obtain ⟨value, hvalue, rfl⟩ := Option.map_eq_some_iff.1 h
    obtain ⟨written, -, hvalue⟩ := Option.bind_eq_some_iff.1 hvalue
    exact ⟨canonical_canonical value, hnumerals, Nat.le_trans (depth_canonical_le value)
      (Written.depth_le_of_valueWithin? depthLimit written hvalue)⟩
  · cases h

theorem merge (hbase : base.Regular) (hpatch : patch.Regular) : (merge base patch).Regular where
  canonical := hbase.canonical.merge hpatch.canonical
  numerals t ht := (numbers_of_merge ht).elim (hbase.numerals t) (hpatch.numerals t)
  depth_le :=
    Nat.le_trans (depth_merge_le base patch) (Nat.max_le.2 ⟨hbase.depth_le, hpatch.depth_le⟩)

/-- A regular value is read from its text if and only if it is literal. -/
theorem parse?_write_iff (h : v.Regular) : parse? v.write = some v ↔ v.Literal := by
  have hread := valueWithin?_asWritten_iff depthLimit v h.canonical
  rw [and_iff_left h.depth_le] at hread
  rw [parse?_write v h.numerals, Written.value?, Option.map_eq_some_iff]
  refine ⟨fun hwritten => ?_, fun hliteral => ?_⟩
  · obtain ⟨value, hvalue, heq⟩ := hwritten
    have hcanonical := canonical_of_valueWithin? depthLimit v h.canonical hvalue
    rw [canonical_eq_self value hcanonical] at heq
    exact hread.1 (heq ▸ hvalue)
  · exact ⟨v, hread.2 hliteral, canonical_eq_self v h.canonical⟩

end Regular

end Json
end ApiCli

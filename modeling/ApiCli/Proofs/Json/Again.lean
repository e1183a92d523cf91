import ApiCli.Proofs.Json.Canonical

/-!
# Merging again

A value that is merged over itself is itself (`mergeAt_self`), so merging a canonical patch once
more changes nothing.

* `merge_merge_self`: the patch finds in place what it has put there.
* `merge_empty`: a patch without members changes nothing.

**Idempotence** (`merge_idempotent`): whatever is merged, over whatever base, merging it once more
changes nothing. A value that is not canonical has a key twice or its keys out of order; no document
has such a value, and merging makes none (`Canonical.merge`).
-/

namespace ApiCli

namespace Json

variable {fields members merged : List (String × Json)}

/-- Nothing is added that is there already. -/
theorem addMissing_eq_self (h : ∀ key ∈ fields.map (·.1), key ∈ merged.map (·.1)) :
    addMissing fields merged = merged := by
  unfold addMissing
  induction fields with
  | nil => rfl
  | cons field fields ih =>
    obtain ⟨hfield, hfields⟩ := List.forall_mem_cons.1 h
    rw [List.foldl_cons, if_pos (Dict.isSome_find_iff.2 hfield)]
    exact ih hfields

/-- Members that are kept one by one are kept. -/
theorem mergeMembers_eq_self (h : ∀ m ∈ members, mergeAt (Dict.find m.1 fields) m.2 = m.2) :
    mergeMembers fields members = members := by
  induction members with
  | nil => rfl
  | cons m rest ih =>
    obtain ⟨key, value⟩ := m
    obtain ⟨hvalue, hrest⟩ := List.forall_mem_cons.1 h
    rw [mergeMembers, hvalue, ih hrest]

/-! ## A value over itself -/

mutual

/-- A value merged over itself is itself. -/
theorem mergeAt_self : (v : Json) → v.Canonical → mergeAt (some v) v = v
  | null, _ | bool _, _ | number _, _ | string _, _ | array _, _ => rfl
  | object members, h => by
    have hmembers : mergeMembers members members = members := by
      apply mergeMembers_eq_self
      intro m hm
      rw [(Dict.find_eq_some_iff h.1).2 hm]
      exact forall_mergeAt_self members h.2 m hm
    rw [mergeAt, hmembers, addMissing_eq_self fun _ => id]

theorem forall_mergeAt_self : (members : List (String × Json)) → CanonicalMembers members →
    ∀ m ∈ members, mergeAt (some m.2) m.2 = m.2
  | [], _ => List.forall_mem_nil _
  | (_, value) :: rest, h =>
    List.forall_mem_cons.2 ⟨mergeAt_self value h.1, forall_mergeAt_self rest h.2⟩

end

/-! ## A patch over what it has patched -/

/-- Members of both sides that the patch keeps make up an object that it keeps. -/
theorem mergeAt_object_eq_self (hfields : KeysIncrease fields) (hcanonical : CanonicalMembers fields)
    (hkept : ∀ m ∈ merged, mergeAt (Dict.find m.1 fields) m.2 = m.2) :
    mergeAt (some (object fields)) (object (addMissing fields merged)) =
      object (addMissing fields merged) := by
  have hmembers : mergeMembers fields (addMissing fields merged) = addMissing fields merged := by
    apply mergeMembers_eq_self
    intro m hm
    rcases mem_addMissing hm with hm | hm
    · rw [(Dict.find_eq_some_iff hfields).2 hm]
      exact forall_mergeAt_self fields hcanonical m hm
    · exact hkept m hm
  rw [mergeAt, hmembers, addMissing_eq_self]
  intro key hkey
  rw [← Dict.isSome_find_iff, find_addMissing, Option.isSome_or, Bool.or_eq_true]
  exact .inr (Dict.isSome_find_iff.2 hkey)

mutual

theorem mergeAt_mergeAt {patch : Option Json} (hpatch : ∀ p ∈ patch, p.Canonical) :
    (base : Json) → mergeAt patch (mergeAt patch base) = mergeAt patch base
  | array items => by
    rcases patch with - | p
    · rw [mergeAt_none, id, id]
    · have hp := hpatch p rfl
      cases p with
      | object fields =>
        rw [mergeAt, mergeAt, mergeItems_mergeItems hp.2 0 items]
      | _ => simp only [mergeAt, Option.getD_some]
  | object members => by
    rcases patch with - | p
    · rw [mergeAt_none, id, id]
    · have hp := hpatch p rfl
      cases p with
      | object fields =>
        rw [mergeAt]
        exact mergeAt_object_eq_self hp.1 hp.2 (forall_mergeAt_mergeMembers hp.2 members)
      | _ => simp only [mergeAt]
  | null | bool _ | number _ | string _ => by
    rcases patch with - | p
    · rfl
    · exact mergeAt_self p (hpatch p rfl)

theorem mergeItems_mergeItems {fields : List (String × Json)} (hfields : CanonicalMembers fields)
    (index : Nat) : (items : List Json) →
      mergeItems fields index (mergeItems fields index items) = mergeItems fields index items
  | [] => rfl
  | item :: rest => by
    rw [mergeItems, mergeItems, mergeAt_mergeAt (hfields.find _) item,
      mergeItems_mergeItems hfields (index + 1) rest]

theorem forall_mergeAt_mergeMembers {fields : List (String × Json)}
    (hfields : CanonicalMembers fields) : (members : List (String × Json)) →
      ∀ m ∈ mergeMembers fields members, mergeAt (Dict.find m.1 fields) m.2 = m.2
  | [] => List.forall_mem_nil _
  | (_, value) :: rest =>
    List.forall_mem_cons.2 ⟨mergeAt_mergeAt (hfields.find _) value,
      forall_mergeAt_mergeMembers hfields rest⟩

end

/-- A patch that is merged once more changes nothing. -/
theorem merge_merge_self {patch : Json} (hpatch : patch.Canonical) (base : Json) :
    merge (merge base patch) patch = merge base patch := by
  have hagain : mergeAt (some patch) (mergeAt (some patch) base) = mergeAt (some patch) base := by
    refine mergeAt_mergeAt (fun p hp => ?_) base
    obtain rfl := Option.some.inj hp
    exact hpatch
  cases patch with
  | object fields =>
    cases base with
    | array items => simpa only [merge, mergeAt] using hagain
    | object members => simpa only [merge, mergeAt] using hagain
    | _ => rfl
  | _ => simp only [merge]

/-! ## A patch without members -/

theorem mergeItems_nil (index : Nat) (items : List Json) : mergeItems [] index items = items := by
  induction items generalizing index with
  | nil => rfl
  | cons item rest ih => rw [mergeItems, Dict.find, mergeAt_none, id, ih]

theorem mergeMembers_nil (members : List (String × Json)) : mergeMembers [] members = members :=
  mergeMembers_eq_self fun m _ => by rw [Dict.find, mergeAt_none, id]

/-- A patch without members changes nothing. -/
theorem merge_empty (base : Json) : merge base (object []) = base := by
  cases base with
  | array items => rw [merge, mergeAt, mergeItems_nil]
  | object members =>
    rw [merge, mergeAt, mergeMembers_nil]
    rfl
  | _ => rfl

/-! ## Idempotence -/

theorem merge_self {v : Json} (hv : v.Canonical) : merge v v = v := by
  cases v with
  | object members => exact mergeAt_self (object members) hv
  | _ => rfl

/-- Merging a value over any base once more changes nothing, and neither does merging it over
itself. -/
theorem merge_idempotent {v : Json} (hv : v.Canonical) :
    (∀ base, merge (merge base v) v = merge base v) ∧ merge v v = v :=
  ⟨merge_merge_self hv, merge_self hv⟩

namespace Again

/-- A number, an array and an object under three keys. -/
def pods : Json :=
  object [("a", number "1"), ("b", array [null, object [("x", null)]]), ("c", object [])]

/-- An object in place of the number, a patch of the array, and an array in place of the object. -/
def podsPatch : Json :=
  object [("a", object [("b", null), ("x", array [])]),
    ("b", object [("0", object [("y", null)]), ("1", object [("x", number "2")])]),
    ("c", array [null]), ("d", bool true)]

end Again

/-- The patch changes a number to an object and patches two items. The second time it finds all this
in place. -/
theorem merge_idempotent_pods :
    Again.podsPatch.Canonical ∧
      merge Again.pods Again.podsPatch =
        object [("a", object [("b", null), ("x", array [])]),
          ("b", array [object [("y", null)], object [("x", number "2")]]),
          ("c", object []), ("d", bool true)] ∧
      merge (merge Again.pods Again.podsPatch) Again.podsPatch =
        merge Again.pods Again.podsPatch ∧
      merge Again.podsPatch Again.podsPatch = Again.podsPatch := by
  have hcanonical : Again.podsPatch.Canonical := by decide
  obtain ⟨hagain, hself⟩ := merge_idempotent hcanonical
  exact ⟨hcanonical, by rfl, hagain Again.pods, hself⟩

end Json
end ApiCli

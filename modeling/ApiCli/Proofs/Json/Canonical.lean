import ApiCli.Proofs.Json.Merge

/-!
# Canonical values

* `Everywhere P` says that `P` holds of the members of every object in a value. What the members
  of a merged object inherit from both sides, a merged value inherits (`Everywhere.merge`).
* Being canonical is such a property (`canonical_iff`). Every value has a canonical form
  (`canonical_canonical`), which is the value itself if it is canonical already
  (`canonical_eq_self`), and merging keeps values canonical (`Canonical.merge`).
-/

namespace ApiCli

namespace Json

variable {P : List (String × Json) → Prop} {fields members merged : List (String × Json)}

/-! ## Properties of all objects -/

mutual

/-- `P` holds of the members of every object in a value. -/
def Everywhere (P : List (String × Json) → Prop) : Json → Prop
  | array items => EverywhereItems P items
  | object members => P members ∧ EverywhereMembers P members
  | null | bool _ | number _ | string _ => True

def EverywhereItems (P : List (String × Json) → Prop) : List Json → Prop
  | [] => True
  | item :: rest => Everywhere P item ∧ EverywhereItems P rest

def EverywhereMembers (P : List (String × Json) → Prop) : List (String × Json) → Prop
  | [] => True
  | (_, value) :: rest => Everywhere P value ∧ EverywhereMembers P rest

end

theorem everywhereMembers_iff :
    EverywhereMembers P members ↔ ∀ m ∈ members, m.2.Everywhere P := by
  induction members with
  | nil => simp [EverywhereMembers]
  | cons m rest ih => rw [EverywhereMembers, ih, List.forall_mem_cons]

theorem EverywhereMembers.find (h : EverywhereMembers P members) (key : String) :
    ∀ value ∈ Dict.find key members, value.Everywhere P :=
  fun _ hvalue => everywhereMembers_iff.1 h _ (Dict.mem_of_find hvalue)

theorem EverywhereMembers.addMissing (hfields : EverywhereMembers P fields)
    (hmerged : EverywhereMembers P merged) : EverywhereMembers P (addMissing fields merged) :=
  everywhereMembers_iff.2 fun m hm =>
    (mem_addMissing hm).elim (everywhereMembers_iff.1 hfields m) (everywhereMembers_iff.1 hmerged m)

/-- What holds of the members of two objects holds of the members of the merged object. -/
def MergeClosed (P : List (String × Json) → Prop) : Prop :=
  ∀ fields members, P fields → P members → P (addMissing fields (mergeMembers fields members))

mutual

theorem Everywhere.mergeAt (hP : MergeClosed P) {patch : Option Json}
    (hpatch : ∀ p ∈ patch, p.Everywhere P) :
    (base : Json) → base.Everywhere P → (mergeAt patch base).Everywhere P
  | array items, hbase => by
    rcases patch with - | p
    · rwa [mergeAt_none]
    · have hp := hpatch p rfl
      cases p with
      | object fields => exact EverywhereItems.mergeItems hP hp.2 0 items hbase
      | _ => simpa only [Json.mergeAt] using hp
  | object members, hbase => by
    rcases patch with - | p
    · rwa [mergeAt_none]
    · have hp := hpatch p rfl
      cases p with
      | object fields =>
        have hmembers := EverywhereMembers.mergeMembers hP hp.2 members hbase.2
        exact ⟨hP fields members hp.1 hbase.1, hp.2.addMissing hmembers⟩
      | _ => simpa only [Json.mergeAt] using hbase
  | null, _ | bool _, _ | number _, _ | string _, _ => by
    rcases patch with - | p
    · trivial
    · exact hpatch p rfl

theorem EverywhereItems.mergeItems (hP : MergeClosed P) {fields : List (String × Json)}
    (hfields : EverywhereMembers P fields) (index : Nat) :
    (items : List Json) → EverywhereItems P items →
      EverywhereItems P (mergeItems fields index items)
  | [], _ => trivial
  | item :: rest, hitems =>
    ⟨Everywhere.mergeAt hP (hfields.find _) item hitems.1,
      EverywhereItems.mergeItems hP hfields (index + 1) rest hitems.2⟩

theorem EverywhereMembers.mergeMembers (hP : MergeClosed P) {fields : List (String × Json)}
    (hfields : EverywhereMembers P fields) :
    (members : List (String × Json)) → EverywhereMembers P members →
      EverywhereMembers P (mergeMembers fields members)
  | [], _ => trivial
  | (_, value) :: rest, hmembers =>
    ⟨Everywhere.mergeAt hP (hfields.find _) value hmembers.1,
      EverywhereMembers.mergeMembers hP hfields rest hmembers.2⟩

end

/-- What merged members inherit from both sides, merged values inherit. -/
theorem Everywhere.merge (hP : MergeClosed P) {base patch : Json} (hbase : base.Everywhere P)
    (hpatch : patch.Everywhere P) : (merge base patch).Everywhere P := by
  have hmerged : (Json.mergeAt (some patch) base).Everywhere P := by
    refine Everywhere.mergeAt hP (fun p hp => ?_) base hbase
    obtain rfl := Option.some.inj hp
    exact hpatch
  unfold Json.merge
  split
  · exact hmerged
  · exact hmerged
  · exact hbase

/-! ## Canonical values -/

mutual

def decidableCanonical : (j : Json) → Decidable j.Canonical
  | null | bool _ | number _ | string _ => isTrue trivial
  | array items => decidableCanonicalItems items
  | object members =>
    have := decidableCanonicalMembers members
    inferInstanceAs (Decidable (KeysIncrease members ∧ CanonicalMembers members))

def decidableCanonicalItems : (items : List Json) → Decidable (CanonicalItems items)
  | [] => isTrue trivial
  | item :: rest =>
    have := decidableCanonical item
    have := decidableCanonicalItems rest
    inferInstanceAs (Decidable (Canonical item ∧ CanonicalItems rest))

def decidableCanonicalMembers : (members : List (String × Json)) →
    Decidable (CanonicalMembers members)
  | [] => isTrue trivial
  | (_, value) :: rest =>
    have := decidableCanonical value
    have := decidableCanonicalMembers rest
    inferInstanceAs (Decidable (Canonical value ∧ CanonicalMembers rest))

end

instance (j : Json) : Decidable j.Canonical := decidableCanonical j

mutual

theorem canonical_iff : (j : Json) → (j.Canonical ↔ j.Everywhere KeysIncrease)
  | null | bool _ | number _ | string _ => Iff.rfl
  | array items => canonicalItems_iff items
  | object members => and_congr_right' (canonicalMembers_iff members)

theorem canonicalItems_iff :
    (items : List Json) → (CanonicalItems items ↔ EverywhereItems KeysIncrease items)
  | [] => Iff.rfl
  | item :: rest => and_congr (canonical_iff item) (canonicalItems_iff rest)

theorem canonicalMembers_iff : (members : List (String × Json)) →
    (CanonicalMembers members ↔ EverywhereMembers KeysIncrease members)
  | [] => Iff.rfl
  | (_, value) :: rest => and_congr (canonical_iff value) (canonicalMembers_iff rest)

end

theorem forall_canonical_iff :
    CanonicalMembers members ↔ ∀ m ∈ members, m.2.Canonical := by
  simp only [canonicalMembers_iff, everywhereMembers_iff, canonical_iff]

theorem CanonicalMembers.find (h : CanonicalMembers members) (key : String) :
    ∀ value ∈ Dict.find key members, value.Canonical :=
  fun _ hvalue => forall_canonical_iff.1 h _ (Dict.mem_of_find hvalue)

mutual

theorem canonical_canonical : (j : Json) → j.canonical.Canonical
  | null | bool _ | number _ | string _ => trivial
  | array items => canonicalItems_canonicalItems items
  | object members =>
    ⟨Dict.increase _, forall_canonical_iff.2 fun m hm =>
      forall_canonical_iff.1 (canonicalMembers_canonicalMembers members) m (Dict.mem_ofList hm)⟩

theorem canonicalItems_canonicalItems :
    (items : List Json) → CanonicalItems (canonicalItems items)
  | [] => trivial
  | item :: rest => ⟨canonical_canonical item, canonicalItems_canonicalItems rest⟩

theorem canonicalMembers_canonicalMembers :
    (members : List (String × Json)) → CanonicalMembers (canonicalMembers members)
  | [] => trivial
  | (_, value) :: rest => ⟨canonical_canonical value, canonicalMembers_canonicalMembers rest⟩

end

mutual

theorem canonical_eq_self : (j : Json) → j.Canonical → j.canonical = j
  | null, _ | bool _, _ | number _, _ | string _, _ => rfl
  | array items, h => congrArg array (canonicalItems_eq_self items h)
  | object members, h => by
    rw [canonical, canonicalMembers_eq_self members h.2, Dict.entries_ofList h.1]

theorem canonicalItems_eq_self :
    (items : List Json) → CanonicalItems items → canonicalItems items = items
  | [], _ => rfl
  | item :: rest, h => by
    rw [canonicalItems, canonical_eq_self item h.1, canonicalItems_eq_self rest h.2]

theorem canonicalMembers_eq_self : (members : List (String × Json)) →
    CanonicalMembers members → canonicalMembers members = members
  | [], _ => rfl
  | (_, value) :: rest, h => by
    rw [canonicalMembers, canonical_eq_self value h.1, canonicalMembers_eq_self rest h.2]

end

/-! ## Merged values -/

theorem keysIncrease_addMissing (h : KeysIncrease merged) :
    KeysIncrease (addMissing fields merged) := by
  unfold addMissing
  induction fields generalizing merged with
  | nil => exact h
  | cons field fields ih =>
    rw [List.foldl_cons]
    refine ih ?_
    split
    · exact h
    · exact Dict.increase_insertEntry h

theorem keysIncrease_mergeMembers (h : KeysIncrease members) :
    KeysIncrease (mergeMembers fields members) := by
  rw [Dict.keysIncrease_iff, keys_mergeMembers, ← Dict.keysIncrease_iff]
  exact h

theorem mergeClosed_keysIncrease : MergeClosed KeysIncrease :=
  fun _ _ _ h => keysIncrease_addMissing (keysIncrease_mergeMembers h)

/-- Merging keeps values canonical. -/
theorem Canonical.merge {base patch : Json} (hbase : base.Canonical) (hpatch : patch.Canonical) :
    (merge base patch).Canonical := by
  rw [canonical_iff] at hbase hpatch ⊢
  exact hbase.merge mergeClosed_keysIncrease hpatch

end Json
end ApiCli

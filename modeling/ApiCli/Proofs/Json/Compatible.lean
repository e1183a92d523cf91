import ApiCli.Proofs.Json.Canonical

/-!
# Patches that do not conflict

* `Compatible p q`: both are objects, and so are their members under every key that they share,
  which are compatible again.
* `Compatible.mergeAt_comm`: two compatible objects merge to the same, whichever is the base.
* `mergeAt_mergeAt_comm`: compatible patches of a place can change sides. Where the base has nothing
  that can be patched in parts, the first patch becomes the base of the second.

**Commutation** (`merge_comm_of_compatible`): compatible patches give the same in either order.
-/

namespace ApiCli

namespace Json

/-- Two objects whose members under a key that they share are compatible objects again. -/
inductive Compatible : Json → Json → Prop
  | object : (∀ key v w, Dict.find key fields = some v → Dict.find key others = some w →
      Compatible v w) → Compatible (object fields) (object others)

/-- Patches of one place that are compatible if both are there. -/
def CompatibleAt (p q : Option Json) : Prop := ∀ v ∈ p, ∀ w ∈ q, Compatible v w

variable {p q : Json} {fields others members : List (String × Json)}

theorem Compatible.find (h : Compatible (.object fields) (.object others)) (key : String) :
    CompatibleAt (Dict.find key fields) (Dict.find key others) := by
  cases h with
  | object hshared => exact fun v hv w hw => hshared key v w hv hw

theorem compatible_of_forall
    (h : ∀ m ∈ fields, ∀ n ∈ others, m.1 = n.1 → Compatible m.2 n.2) :
    Compatible (object fields) (object others) :=
  .object fun _ _ _ hv hw => h _ (Dict.mem_of_find hv) _ (Dict.mem_of_find hw) rfl

/-! ## One patch over the other -/

/-- What a merged object has under a key. -/
theorem find_merged (key : String) :
    Dict.find key (addMissing fields (mergeMembers fields members)) =
      ((Dict.find key members).map (mergeAt (Dict.find key fields))).or (Dict.find key fields) := by
  rw [find_addMissing, find_mergeMembers]

theorem Compatible.mergeAt_comm (h : Compatible p q) (hp : p.Canonical) (hq : q.Canonical) :
    mergeAt (some q) p = mergeAt (some p) q := by
  induction h with
  | @object fields others _ ih =>
    rw [mergeAt, mergeAt]
    refine congrArg Json.object (Dict.eq_of_find (mergeClosed_keysIncrease _ _ hq.1 hp.1)
      (mergeClosed_keysIncrease _ _ hp.1 hq.1) fun key => ?_)
    rw [find_merged, find_merged]
    cases hv : Dict.find key fields with
    | none => simp [mergeAt_none]
    | some v =>
      cases hw : Dict.find key others with
      | none => simp [mergeAt_none]
      | some w =>
        have hvw := ih key v w hv hw (hp.2.find key v hv) (hq.2.find key w hw)
        rw [Option.map_some, Option.map_some, hvw, Option.some_or, Option.some_or]

/-- Where there is nothing else, compatible patches make the same of each other. -/
theorem CompatibleAt.mergeAt_comm {p q : Option Json} (h : CompatibleAt p q)
    (hp : ∀ v ∈ p, v.Canonical) (hq : ∀ w ∈ q, w.Canonical) :
    (p.map (mergeAt q)).or q = (q.map (mergeAt p)).or p := by
  cases p with
  | none => simp [mergeAt_none]
  | some v =>
    cases q with
    | none => simp [mergeAt_none]
    | some w =>
      rw [Option.map_some, Option.map_some, (h v rfl w rfl).mergeAt_comm (hp v rfl) (hq w rfl)]
      rfl

/-! ## Both patches over a base -/

/-- Patches that can change sides at every member of an object can do so at the object. -/
theorem mergeAt_object_comm (h : Compatible (object fields) (object others))
    (hfields : (object fields).Canonical) (hothers : (object others).Canonical)
    (hmembers : KeysIncrease members)
    (hcomm : ∀ m ∈ members, mergeAt (Dict.find m.1 others) (mergeAt (Dict.find m.1 fields) m.2) =
      mergeAt (Dict.find m.1 fields) (mergeAt (Dict.find m.1 others) m.2)) :
    mergeAt (some (object others)) (mergeAt (some (object fields)) (object members)) =
      mergeAt (some (object fields)) (mergeAt (some (object others)) (object members)) := by
  rw [mergeAt, mergeAt, mergeAt, mergeAt]
  have hfirst := mergeClosed_keysIncrease _ _ hothers.1
    (mergeClosed_keysIncrease _ _ hfields.1 hmembers)
  have hsecond := mergeClosed_keysIncrease _ _ hfields.1
    (mergeClosed_keysIncrease _ _ hothers.1 hmembers)
  refine congrArg Json.object (Dict.eq_of_find hfirst hsecond fun key => ?_)
  rw [find_merged, find_merged, find_merged, find_merged]
  cases hmember : Dict.find key members with
  | none =>
    rw [Option.map_none, Option.map_none, Option.none_or, Option.none_or]
    exact (h.find key).mergeAt_comm (hfields.2.find key) (hothers.2.find key)
  | some value =>
    rw [Option.map_some, Option.map_some, Option.some_or, Option.some_or, Option.map_some,
      Option.map_some, hcomm _ (Dict.mem_of_find hmember), Option.some_or, Option.some_or]

mutual

/-- Compatible patches of a place can change sides. -/
theorem mergeAt_mergeAt_comm {p q : Option Json} (h : CompatibleAt p q)
    (hp : ∀ v ∈ p, v.Canonical) (hq : ∀ w ∈ q, w.Canonical) (base : Json)
    (hbase : base.Canonical) : mergeAt q (mergeAt p base) = mergeAt p (mergeAt q base) := by
  cases p with
  | none => rw [mergeAt_none, id, id]
  | some v =>
    cases q with
    | none => rw [mergeAt_none, id, id]
    | some w =>
      have hvw : Compatible v w := h v rfl w rfl
      have hv := hp v rfl
      have hw := hq w rfl
      cases base with
      | array items =>
        cases hvw with
        | object hshared =>
          rw [mergeAt, mergeAt, mergeAt, mergeAt, mergeItems_mergeItems_comm
            (Compatible.object hshared).find hv.2 hw.2 0 items hbase]
      | object members =>
        cases hvw with
        | object hshared =>
          exact mergeAt_object_comm (.object hshared) hv hw hbase.1
            (forall_mergeAt_mergeAt_comm (Compatible.object hshared).find hv.2 hw.2 members hbase.2)
      -- The first patch takes the place of the base.
      | _ => exact hvw.mergeAt_comm hv hw

theorem mergeItems_mergeItems_comm {fields others : List (String × Json)}
    (h : ∀ key, CompatibleAt (Dict.find key fields) (Dict.find key others))
    (hfields : CanonicalMembers fields) (hothers : CanonicalMembers others) (index : Nat)
    (items : List Json) (hitems : CanonicalItems items) :
    mergeItems others index (mergeItems fields index items) =
      mergeItems fields index (mergeItems others index items) := by
  cases items with
  | nil => rfl
  | cons item rest =>
    rw [mergeItems, mergeItems, mergeItems, mergeItems,
      mergeAt_mergeAt_comm (h _) (hfields.find _) (hothers.find _) item hitems.1,
      mergeItems_mergeItems_comm h hfields hothers (index + 1) rest hitems.2]

theorem forall_mergeAt_mergeAt_comm {fields others : List (String × Json)}
    (h : ∀ key, CompatibleAt (Dict.find key fields) (Dict.find key others))
    (hfields : CanonicalMembers fields) (hothers : CanonicalMembers others)
    (members : List (String × Json)) (hmembers : CanonicalMembers members) :
    ∀ m ∈ members, mergeAt (Dict.find m.1 others) (mergeAt (Dict.find m.1 fields) m.2) =
      mergeAt (Dict.find m.1 fields) (mergeAt (Dict.find m.1 others) m.2) := by
  cases members with
  | nil => exact List.forall_mem_nil _
  | cons m rest =>
    obtain ⟨key, value⟩ := m
    exact List.forall_mem_cons.2
      ⟨mergeAt_mergeAt_comm (h key) (hfields.find key) (hothers.find key) value hmembers.1,
        forall_mergeAt_mergeAt_comm h hfields hothers rest hmembers.2⟩

end

/-- Compatible patches give the same in either order. -/
theorem merge_comm_of_compatible {base p q : Json} (h : Compatible p q) (hbase : base.Canonical)
    (hp : p.Canonical) (hq : q.Canonical) :
    merge (merge base p) q = merge (merge base q) p := by
  have hcomm : mergeAt (some q) (mergeAt (some p) base) =
      mergeAt (some p) (mergeAt (some q) base) := by
    refine mergeAt_mergeAt_comm (fun v hv w hw => ?_) (fun v hv => ?_) (fun w hw => ?_) base hbase
    · exact Option.some.inj hv ▸ Option.some.inj hw ▸ h
    · exact Option.some.inj hv ▸ hp
    · exact Option.some.inj hw ▸ hq
  cases h with
  | object _ =>
    cases base with
    | array items => simpa only [merge, mergeAt] using hcomm
    | object members => simpa only [merge, mergeAt] using hcomm
    | _ => rfl

namespace Compatible

/-- A number and an array. -/
def pods : Json := .object [("a", number "1"), ("b", array [.object [("x", null)], null])]

/-- An object in place of the number, a member of an item, and a new member. -/
def labels : Json :=
  .object [("a", .object [("x", .object [("m", bool true)])]),
    ("b", .object [("0", .object [("y", number "2")])]), ("c", null)]

/-- Other members of the same object and the same item, and another item. -/
def limits : Json :=
  .object [("a", .object [("x", .object [("n", bool false)]), ("z", null)]),
    ("b", .object [("0", .object [("x", number "3")]), ("1", string "s")])]

end Compatible

/-- Both patches bring an object in place of the number, and both change the first item. -/
theorem merge_comm_of_compatible_pods :
    Compatible.labels.Compatible Compatible.limits ∧
      merge (merge Compatible.pods Compatible.labels) Compatible.limits =
        merge (merge Compatible.pods Compatible.limits) Compatible.labels ∧
      merge (merge Compatible.pods Compatible.labels) Compatible.limits =
        object [("a", object [("x", object [("m", bool true), ("n", bool false)]), ("z", null)]),
          ("b", array [object [("x", number "3"), ("y", number "2")], string "s"]), ("c", null)] := by
  have hcompatible : Compatible.labels.Compatible Compatible.limits := by
    have hx : (object [("m", bool true)]).Compatible (object [("n", bool false)]) :=
      compatible_of_forall (by simp)
    have hitem : (object [("y", number "2")]).Compatible (object [("x", number "3")]) :=
      compatible_of_forall (by simp)
    refine compatible_of_forall ?_
    suffices (object [("x", object [("m", bool true)])]).Compatible
          (object [("x", object [("n", bool false)]), ("z", null)]) ∧
        (object [("0", object [("y", number "2")])]).Compatible
          (object [("0", object [("x", number "3")]), ("1", string "s")]) by simpa
    exact ⟨compatible_of_forall (by simpa using hx), compatible_of_forall (by simpa using hitem)⟩
  have hpods : Compatible.pods.Canonical := by decide
  have hlabels : Compatible.labels.Canonical := by decide
  have hlimits : Compatible.limits.Canonical := by decide
  exact ⟨hcompatible, merge_comm_of_compatible hcompatible hpods hlabels hlimits, by rfl⟩

end Json
end ApiCli

import ApiCli.Proofs.Json.Numbers
import ApiCli.Proofs.Json.Reader

/-!
# Values that are read back

The text of a value, read back, has the keys of the value, and nothing in it is nested deeper.

An object with `numberKey` in front is the exception: its text stands for a number or for nothing.

* `isSome_member?_of_parse?_write`: a key that is not `numberKey` is there before if and only if it
  is there after.
* `exists_member_of_parse?_write`: a member that is read back is a member, nested no deeper than it
  was.
-/

namespace ApiCli

namespace Json

variable {key : String} {members values : List (String × Json)}

/-! ## Depth -/

mutual

/-- How many arrays and objects stand around each other in a value at most. -/
def depth : Json → Nat
  | array items => depthItems items + 1
  | object members => depthMembers members + 1
  | null | bool _ | number _ | string _ => 0

def depthItems : List Json → Nat
  | [] => 0
  | item :: rest => max (depth item) (depthItems rest)

def depthMembers : List (String × Json) → Nat
  | [] => 0
  | (_, value) :: rest => max (depth value) (depthMembers rest)

end

theorem depthMembers_le_iff {n : Nat} : depthMembers members ≤ n ↔ ∀ m ∈ members, m.2.depth ≤ n := by
  induction members with
  | nil => simp [depthMembers]
  | cons m rest ih => rw [depthMembers, Nat.max_le, ih, List.forall_mem_cons]

theorem depth_lt_of_mem {value : Json} (h : (key, value) ∈ members) :
    value.depth < (object members).depth :=
  Nat.lt_succ_of_le (depthMembers_le_iff.1 (Nat.le_refl _) _ h)

mutual

theorem depth_canonical_le : (j : Json) → j.canonical.depth ≤ j.depth
  | null | bool _ | number _ | string _ => Nat.le_refl _
  | array items => Nat.succ_le_succ (depthItems_canonicalItems_le items)
  | object members => by
    refine Nat.succ_le_succ (depthMembers_le_iff.2 fun m hm => ?_)
    exact Nat.le_trans (depthMembers_le_iff.1 (Nat.le_refl _) m (Dict.mem_ofList hm))
      (depthMembers_canonicalMembers_le members)

theorem depthItems_canonicalItems_le :
    (items : List Json) → depthItems (canonicalItems items) ≤ depthItems items
  | [] => Nat.le_refl _
  | item :: rest => by
    have hitem := depth_canonical_le item
    have hrest := depthItems_canonicalItems_le rest
    simp only [canonicalItems, depthItems]
    omega

theorem depthMembers_canonicalMembers_le : (members : List (String × Json)) →
    depthMembers (canonicalMembers members) ≤ depthMembers members
  | [] => Nat.le_refl _
  | (_, value) :: rest => by
    have hvalue := depth_canonical_le value
    have hrest := depthMembers_canonicalMembers_le rest
    simp only [canonicalMembers, depthMembers]
    omega

end

/-- A member that is read back has its key and is nested no deeper than it was. -/
def ReadBack (m value : String × Json) : Prop := value.1 = m.1 ∧ value.2.depth ≤ m.2.depth

theorem depthMembers_le_of_readBack (h : List.Forall₂ ReadBack members values) :
    depthMembers values ≤ depthMembers members := by
  induction h with
  | nil => exact Nat.le_refl _
  | cons hm _ ih =>
    have hdepth := hm.2
    simp only [depthMembers]
    omega

theorem keys_of_readBack (h : List.Forall₂ ReadBack members values) :
    values.map (·.1) = members.map (·.1) := by
  induction h with
  | nil => rfl
  | cons hm _ ih => rw [List.map_cons, List.map_cons, hm.1, ih]

theorem exists_of_readBack (h : List.Forall₂ ReadBack members values) :
    ∀ value ∈ values, ∃ m ∈ members, ReadBack m value := by
  induction h with
  | nil => exact List.forall_mem_nil _
  | @cons m value _ _ hm _ ih =>
    refine List.forall_mem_cons.2 ⟨⟨m, List.mem_cons_self, hm⟩, fun v hv => ?_⟩
    obtain ⟨m', hm', hback⟩ := ih v hv
    exact ⟨m', List.mem_cons_of_mem _ hm', hback⟩

theorem depth_of_ofMembers?_le {j : Json} (h : ofMembers? values = some j) :
    j.depth ≤ depthMembers values + 1 := by
  rcases ofMembers?_cases h with rfl | ⟨text, kept, -, -, rfl⟩
  · exact Nat.le_refl _
  · exact Nat.zero_le _

mutual

theorem depth_of_valueWithin?_le : (limit : Nat) → (v : Json) → {j : Json} →
    v.asWritten.valueWithin? limit = some j → j.depth ≤ v.depth
  | _, null, _, h | _, bool _, _, h | _, number _, _, h => by
    cases h
    exact Nat.zero_le _
  | _, string s, _, h => by
    rw [asWritten, Written.valueWithin?, unquote?_escape] at h
    cases h
    exact Nat.zero_le _
  | 0, array _, _, h | 0, object _, _, h => by
    rw [asWritten, Written.valueWithin?] at h
    cases h
  | limit + 1, array items, _, h => by
    rw [asWritten, Written.valueWithin?] at h
    obtain ⟨values, hvalues, rfl⟩ := Option.map_eq_some_iff.1 h
    exact Nat.succ_le_succ (depthItems_of_itemsWithin?_le limit items hvalues)
  | limit + 1, object members, _, h => by
    rw [asWritten, Written.valueWithin?] at h
    obtain ⟨values, hvalues, h⟩ := Option.bind_eq_some_iff.1 h
    refine Nat.le_trans (depth_of_ofMembers?_le h) (Nat.succ_le_succ ?_)
    exact depthMembers_le_of_readBack (readBack_of_membersWithin? limit members hvalues)

theorem depthItems_of_itemsWithin?_le : (limit : Nat) → (items : List Json) → {values : List Json} →
    Written.itemsWithin? limit (asWrittenItems items) = some values →
      depthItems values ≤ depthItems items
  | _, [], _, h => by
    cases h
    exact Nat.le_refl _
  | limit, item :: rest, _, h => by
    obtain ⟨value, values, hvalue, hvalues, rfl⟩ := Written.itemsWithin?_cons h
    have hitem := depth_of_valueWithin?_le limit item hvalue
    have hrest := depthItems_of_itemsWithin?_le limit rest hvalues
    simp only [depthItems]
    omega

theorem readBack_of_membersWithin? : (limit : Nat) → (members : List (String × Json)) →
    {values : List (String × Json)} →
    Written.membersWithin? limit (asWrittenMembers members) = some values →
      List.Forall₂ ReadBack members values
  | _, [], _, h => by
    cases h
    exact .nil
  | limit, (key, v) :: rest, _, h => by
    obtain ⟨name, value, values, hname, hvalue, hvalues, rfl⟩ := Written.membersWithin?_cons h
    obtain rfl : key = name := Option.some.inj ((unquote?_escape key).symm.trans hname)
    exact .cons ⟨rfl, depth_of_valueWithin?_le limit v hvalue⟩
      (readBack_of_membersWithin? limit rest hvalues)

end

/-! ## Keys -/

theorem canonicalMembers_eq_map (members : List (String × Json)) :
    canonicalMembers members = members.map fun m => (m.1, m.2.canonical) := by
  induction members with
  | nil => rfl
  | cons m rest ih => rw [canonicalMembers, List.map_cons, ih]

theorem keys_canonicalMembers (members : List (String × Json)) :
    (canonicalMembers members).map (·.1) = members.map (·.1) := by
  rw [canonicalMembers_eq_map, List.map_map]
  rfl

theorem isSome_member?_canonical (key : String) (j : Json) :
    (j.canonical.member? key).isSome ↔ (j.member? key).isSome := by
  cases j with
  | object members =>
    exact (Dict.isSome_get?_ofList key _).trans
      (keys_canonicalMembers members ▸ Dict.isSome_find_iff.symm)
  | _ => rfl

/-- Members with `numberKey` in front have no other key, if they stand for a value. -/
theorem isSome_member?_of_ofMembers? (hkey : key ≠ numberKey) {j : Json}
    (h : ofMembers? values = some j) : (j.member? key).isSome ↔ key ∈ values.map (·.1) := by
  rcases ofMembers?_cases h with rfl | ⟨text, kept, rfl, -, rfl⟩
  · exact Dict.isSome_find_iff
  · simp [member?, hkey]

/-- The text of an object is read back as what its members, each read back, stand for. -/
theorem readBack_of_parse?_write {j : Json}
    (hnumbers : ∀ t ∈ (object members).numbers, IsNumeral t.toList)
    (h : parse? (object members).write = some j) :
    ∃ values value, List.Forall₂ ReadBack members values ∧ ofMembers? values = some value ∧
      j = value.canonical := by
  rw [parse?_write _ hnumbers] at h
  obtain ⟨value, hvalue, rfl⟩ := Option.map_eq_some_iff.1 h
  rw [asWritten, Written.value?, depthLimit, Written.valueWithin?] at hvalue
  obtain ⟨values, hvalues, hvalue⟩ := Option.bind_eq_some_iff.1 hvalue
  exact ⟨values, value, readBack_of_membersWithin? _ members hvalues, hvalue, rfl⟩

/-- The text of an object, read back, has the keys of the object. -/
theorem isSome_member?_of_parse?_write {j : Json} (hkey : key ≠ numberKey)
    (hnumbers : ∀ t ∈ (object members).numbers, IsNumeral t.toList)
    (h : parse? (object members).write = some j) :
    (j.member? key).isSome ↔ ((object members).member? key).isSome := by
  obtain ⟨values, value, hback, hvalue, rfl⟩ := readBack_of_parse?_write hnumbers h
  rw [isSome_member?_canonical, isSome_member?_of_ofMembers? hkey hvalue, keys_of_readBack hback]
  exact Dict.isSome_find_iff.symm

theorem exists_of_member?_canonical {f : Json} (h : (object values).canonical.member? key = some f) :
    ∃ v, (key, v) ∈ values ∧ f.depth ≤ v.depth := by
  have hmem : (key, f) ∈ canonicalMembers values := Dict.mem_ofList (Dict.mem_of_find h)
  rw [canonicalMembers_eq_map] at hmem
  obtain ⟨⟨k, v⟩, hv, heq⟩ := List.mem_map.1 hmem
  cases heq
  exact ⟨v, hv, depth_canonical_le v⟩

/-- A member that is read back is a member, nested no deeper than it was. -/
theorem exists_member_of_parse?_write {j f : Json}
    (hnumbers : ∀ t ∈ (object members).numbers, IsNumeral t.toList)
    (h : parse? (object members).write = some j) (hf : j.member? key = some f) :
    ∃ g, (key, g) ∈ members ∧ f.depth ≤ g.depth := by
  obtain ⟨values, value, hback, hvalue, rfl⟩ := readBack_of_parse?_write hnumbers h
  have hobject : value = object values := by
    rcases ofMembers?_cases hvalue with rfl | ⟨text, kept, -, -, rfl⟩
    · rfl
    · cases hf
  subst hobject
  obtain ⟨v, hv, hdepth⟩ := exists_of_member?_canonical hf
  obtain ⟨⟨k, g⟩, hg, heq, hback⟩ := exists_of_readBack hback _ hv
  obtain rfl : key = k := heq
  exact ⟨g, hg, Nat.le_trans hdepth hback⟩

end Json
end ApiCli

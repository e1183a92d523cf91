import ApiCli.Proofs.Json.Merge

/-!
# Numbers of values

The texts of the numbers of a value, wherever they stand in it. Neither putting a value in canonical
order nor merging values makes up a number.
-/

namespace ApiCli

namespace Json

mutual

/-- The texts of the numbers of a value. -/
def numbers : Json → List String
  | number text => [text]
  | array items => numbersItems items
  | object members => numbersMembers members
  | null | bool _ | string _ => []

def numbersItems : List Json → List String
  | [] => []
  | item :: rest => numbers item ++ numbersItems rest

def numbersMembers : List (String × Json) → List String
  | [] => []
  | (_, value) :: rest => numbers value ++ numbersMembers rest

end

variable {t : String} {fields members : List (String × Json)}

theorem mem_numbersMembers : t ∈ numbersMembers members ↔ ∃ m ∈ members, t ∈ m.2.numbers := by
  induction members with
  | nil => simp [numbersMembers]
  | cons m members ih => rw [numbersMembers, List.mem_append, ih, List.exists_mem_cons_iff]

/-! ## Canonical values -/

mutual

theorem mem_numbers_of_canonical : (j : Json) → t ∈ j.canonical.numbers → t ∈ j.numbers
  | null, h | bool _, h | number _, h | string _, h => h
  | array items, h => mem_numbers_of_canonicalItems items h
  | object members, h => by
    obtain ⟨m, hm, ht⟩ := mem_numbersMembers.1 h
    exact mem_numbers_of_canonicalMembers members (mem_numbersMembers.2 ⟨m, Dict.mem_ofList hm, ht⟩)

theorem mem_numbers_of_canonicalItems :
    (items : List Json) → t ∈ numbersItems (canonicalItems items) → t ∈ numbersItems items
  | [], h => h
  | item :: rest, h => by
    rw [canonicalItems, numbersItems] at h
    exact List.mem_append.2 ((List.mem_append.1 h).imp (mem_numbers_of_canonical item)
      (mem_numbers_of_canonicalItems rest))

theorem mem_numbers_of_canonicalMembers : (members : List (String × Json)) →
    t ∈ numbersMembers (canonicalMembers members) → t ∈ numbersMembers members
  | [], h => h
  | (_, value) :: rest, h => by
    rw [canonicalMembers, numbersMembers] at h
    exact List.mem_append.2 ((List.mem_append.1 h).imp (mem_numbers_of_canonical value)
      (mem_numbers_of_canonicalMembers rest))

end

/-! ## Merged values -/

theorem numbers_of_find {key : String} {value : Json} (h : Dict.find key members = some value)
    (ht : t ∈ value.numbers) : t ∈ numbersMembers members :=
  mem_numbersMembers.2 ⟨_, Dict.mem_of_find h, ht⟩

theorem numbers_of_addMissing {merged : List (String × Json)}
    (h : t ∈ numbersMembers (addMissing fields merged)) :
    t ∈ numbersMembers fields ∨ t ∈ numbersMembers merged := by
  obtain ⟨m, hm, ht⟩ := mem_numbersMembers.1 h
  exact (mem_addMissing hm).imp (fun hm => mem_numbersMembers.2 ⟨m, hm, ht⟩)
    fun hm => mem_numbersMembers.2 ⟨m, hm, ht⟩

mutual

/-- A number of a patched value is one of the patch or one of the value. -/
theorem numbers_of_mergeAt (patch : Option Json) : (base : Json) →
    t ∈ (mergeAt patch base).numbers → (∃ p ∈ patch, t ∈ p.numbers) ∨ t ∈ base.numbers
  | array items, h => by
    rcases patch with - | p
    · rw [mergeAt_none] at h
      exact .inr h
    · cases p with
      | object fields =>
        rw [mergeAt] at h
        exact (numbers_of_mergeItems fields 0 items h).imp_left fun ht => ⟨_, rfl, ht⟩
      | _ => exact .inl ⟨_, rfl, by simpa only [mergeAt] using h⟩
  | object members, h => by
    rcases patch with - | p
    · rw [mergeAt_none] at h
      exact .inr h
    · cases p with
      | object fields =>
        rw [mergeAt] at h
        rcases numbers_of_addMissing h with h | h
        · exact .inl ⟨_, rfl, h⟩
        · exact (numbers_of_mergeMembers fields members h).imp_left fun ht => ⟨_, rfl, ht⟩
      | _ => exact .inr (by simpa only [mergeAt] using h)
  | null, h | bool _, h | number _, h | string _, h => by
    rcases patch with - | p
    · exact .inr h
    · exact .inl ⟨p, rfl, h⟩

theorem numbers_of_mergeItems (fields : List (String × Json)) (index : Nat) :
    (items : List Json) → t ∈ numbersItems (mergeItems fields index items) →
      t ∈ numbersMembers fields ∨ t ∈ numbersItems items
  | [], h => .inr h
  | item :: rest, h => by
    rw [mergeItems, numbersItems] at h
    rcases List.mem_append.1 h with h | h
    · rcases numbers_of_mergeAt _ item h with ⟨p, hp, ht⟩ | ht
      · exact .inl (numbers_of_find hp ht)
      · exact .inr (List.mem_append_left _ ht)
    · exact (numbers_of_mergeItems fields (index + 1) rest h).imp_right
        (List.mem_append_right _)

theorem numbers_of_mergeMembers (fields : List (String × Json)) :
    (members : List (String × Json)) → t ∈ numbersMembers (mergeMembers fields members) →
      t ∈ numbersMembers fields ∨ t ∈ numbersMembers members
  | [], h => .inr h
  | (key, value) :: rest, h => by
    rw [mergeMembers, numbersMembers] at h
    rcases List.mem_append.1 h with h | h
    · rcases numbers_of_mergeAt _ value h with ⟨p, hp, ht⟩ | ht
      · exact .inl (numbers_of_find hp ht)
      · exact .inr (List.mem_append_left _ ht)
    · exact (numbers_of_mergeMembers fields rest h).imp_right (List.mem_append_right _)

end

theorem numbers_of_merge {base patch : Json} (h : t ∈ (merge base patch).numbers) :
    t ∈ base.numbers ∨ t ∈ patch.numbers := by
  have hpatched (h : t ∈ (mergeAt (some patch) base).numbers) :
      t ∈ base.numbers ∨ t ∈ patch.numbers := by
    rcases numbers_of_mergeAt _ base h with ⟨p, hp, ht⟩ | ht
    · obtain rfl := Option.some.inj hp
      exact .inr ht
    · exact .inl ht
  unfold merge at h
  split at h
  · exact hpatched h
  · exact hpatched h
  · exact .inl h

end Json
end ApiCli

import ApiCli.Json.Merge
import ApiCli.Proofs.Dict

/-!
# Members of merged values

What a merged object holds under a key.

* `member?_merge`: a member of the base is patched by the patch's member of its key, and a key that
  the base lacks is the patch's.
-/

namespace ApiCli

namespace Json

variable {key : String} {fields members merged : List (String × Json)}

theorem find_addMissing :
    Dict.find key (addMissing fields merged) =
      (Dict.find key merged).or (Dict.find key fields) := by
  unfold addMissing
  induction fields generalizing merged with
  | nil => rw [List.foldl_nil, Dict.find, Option.or_none]
  | cons field fields ih =>
    obtain ⟨k, v⟩ := field
    rw [List.foldl_cons, ih, Dict.find]
    cases hk : Dict.find k merged with
    | some kept =>
      rw [Option.isSome_some, if_pos rfl]
      by_cases hkey : k = key
      · subst hkey
        rw [hk, Option.some_or, Option.some_or]
      · rw [if_neg hkey]
    | none =>
      rw [Option.isSome_none, if_neg Bool.false_ne_true, Dict.find_insertEntry_of_none hk]
      by_cases hkey : k = key
      · subst hkey
        rw [if_pos rfl, if_pos rfl, hk, Option.some_or, Option.none_or]
      · rw [if_neg hkey, if_neg hkey]

/-- The members after the missing ones are added are those of both. -/
theorem mem_addMissing {m : String × Json} (h : m ∈ addMissing fields merged) :
    m ∈ fields ∨ m ∈ merged := by
  unfold addMissing at h
  induction fields generalizing merged with
  | nil => exact .inr h
  | cons field fields ih =>
    rcases ih h with h | h
    · exact .inl (List.mem_cons_of_mem _ h)
    · dsimp only at h
      split at h
      · exact .inr h
      · rcases Dict.mem_insertEntry h with rfl | h
        · exact .inl List.mem_cons_self
        · exact .inr h

theorem keys_mergeMembers (fields members : List (String × Json)) :
    (mergeMembers fields members).map (·.1) = members.map (·.1) := by
  induction members with
  | nil => rfl
  | cons m rest ih => rw [mergeMembers, List.map_cons, List.map_cons, ih]

theorem find_mergeMembers :
    Dict.find key (mergeMembers fields members) =
      (Dict.find key members).map (mergeAt (Dict.find key fields)) := by
  induction members with
  | nil => rw [mergeMembers, Dict.find, Option.map_none]
  | cons m rest ih =>
    obtain ⟨k, v⟩ := m
    rw [mergeMembers, Dict.find, Dict.find, ih]
    by_cases hkey : k = key
    · subst hkey
      rw [if_pos rfl, if_pos rfl, Option.map_some]
    · rw [if_neg hkey, if_neg hkey]

theorem mergeAt_none : mergeAt none = id := by
  funext base
  cases base <;> simp [mergeAt]

/-- A member of the base is patched, and a key that the base lacks is the patch's. -/
theorem member?_merge (members : List (String × Json)) (patch : Json) (key : String) :
    (merge (object members) patch).member? key =
      ((Dict.find key members).map (mergeAt (patch.member? key))).or (patch.member? key) := by
  cases patch with
  | object fields =>
    rw [merge, mergeAt, member?, member?, find_addMissing, find_mergeMembers]
  | _ => simp [merge, member?, mergeAt_none]

end Json
end ApiCli

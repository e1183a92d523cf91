import ApiCli.Document.Override
import ApiCli.Proofs.Json.Merge
import ApiCli.Proofs.Json.Parsed
import ApiCli.Proofs.Json.Reread

/-!
# Fragments that hold the override key

The override key is taken out of a document before its fragment is merged over the rest. A fragment
that holds the key itself puts it back.

* `nestedOverride?` is what a document's fragment holds under the override key.
* `member?_resolveOverride`: that is what the resolved document holds under the key.

**Survival of the key** (`overrideKey_survives_iff`): values and texts that are resolved hold the key
if and only if the fragment held it, and only then does resolving them again change them.
-/

namespace ApiCli.Document

open Json

variable {document : Json} {members : List (String × Json)}

/-- What the fragment of a document holds under the override key. -/
def nestedOverride? (document : Json) : Option Json :=
  (document.member? overrideKey).bind (·.member? overrideKey)

/-! ## Values -/

theorem find_filter_ne (key : String) (members : List (String × Json)) :
    Dict.find key (members.filter fun m => m.1 ≠ key) = none := by
  rw [← Option.not_isSome_iff_eq_none, Dict.isSome_find_iff]
  rintro hmem
  obtain ⟨m, hm, rfl⟩ := List.mem_map.1 hmem
  simpa using (List.mem_filter.1 hm).2

/-- A resolved document holds under the key what the fragment held under it. -/
theorem member?_resolveOverride (document : Json) :
    (resolveOverride document).member? overrideKey = nestedOverride? document := by
  unfold resolveOverride nestedOverride?
  split
  · next members =>
    rw [member?]
    cases hfragment : Dict.find overrideKey members with
    | none => exact hfragment
    | some fragment =>
      dsimp only
      rw [member?_merge, find_filter_ne, Option.map_none, Option.none_or]
      rfl
  · next hother =>
    cases document with
    | object members => exact absurd rfl (hother members)
    | _ => rfl

theorem resolveOverride_of_member?_eq_none (h : document.member? overrideKey = none) :
    resolveOverride document = document := by
  unfold resolveOverride
  split
  · next members =>
    rw [member?] at h
    rw [h]
  · rfl

theorem depth_of_member?_lt {v f : Json} {key : String} (h : v.member? key = some f) :
    f.depth < v.depth := by
  cases v with
  | object members => exact depth_lt_of_mem (Dict.mem_of_find h)
  | _ => cases h

/-- A value that is resolved changes once more if it has a fragment. -/
theorem resolveOverride_eq_self_iff :
    resolveOverride document = document ↔ document.member? overrideKey = none := by
  refine ⟨fun hsame => ?_, resolveOverride_of_member?_eq_none⟩
  have hmember := member?_resolveOverride document
  rw [hsame, nestedOverride?] at hmember
  cases hfragment : document.member? overrideKey with
  | none => rfl
  | some fragment =>
    -- The fragment would be a member of itself.
    rw [hfragment, Option.bind_some] at hmember
    exact absurd (depth_of_member?_lt hmember.symm) (Nat.lt_irrefl _)

/-! ## Texts -/

theorem resolveOverrideText_eq {text : String} (h : parse? text.toList = some document) :
    resolveOverrideText text =
      some (if (document.member? overrideKey).isSome then (resolveOverride document).text
        else text) := by
  rw [resolveOverrideText, h, Option.map_some]
  cases document.member? overrideKey <;> rfl

/-- Resolving makes up no number. -/
theorem numbers_of_resolveOverride {t : String} (h : t ∈ (resolveOverride document).numbers) :
    t ∈ document.numbers := by
  unfold resolveOverride at h
  split at h
  · next members =>
    split at h
    · next fragment hfragment =>
      rcases numbers_of_merge h with h | h
      · obtain ⟨m, hm, ht⟩ := mem_numbersMembers.1 h
        exact mem_numbersMembers.2 ⟨m, List.mem_of_mem_filter hm, ht⟩
      · exact numbers_of_find hfragment h
    · exact h
  · exact h

/-- An object is resolved to an object. Its members of the override key are the fragment's. -/
theorem exists_resolveOverride_eq_object {fragment : Json}
    (h : document.member? overrideKey = some fragment) :
    ∃ members, resolveOverride document = object members ∧
      ∀ g, (overrideKey, g) ∈ members → g.depth < fragment.depth := by
  cases document with
  | object members =>
    rw [member?] at h
    have hnone : ∀ g, (overrideKey, g) ∉ members.filter fun m => m.1 ≠ overrideKey := by
      simp
    rw [resolveOverride, h]
    dsimp only
    cases fragment with
    | object fields =>
      rw [merge, mergeAt]
      refine ⟨_, rfl, fun g hg => ?_⟩
      rcases mem_addMissing hg with hg | hg
      · exact depth_lt_of_mem hg
      · have hkey := List.mem_map_of_mem (f := Prod.fst) hg
        rw [keys_mergeMembers] at hkey
        obtain ⟨⟨k, g'⟩, hg', rfl⟩ := List.mem_map.1 hkey
        exact absurd hg' (hnone g')
    | _ => exact ⟨_, rfl, fun g hg => absurd hg (hnone g)⟩
  | _ => cases h

section

variable {text resolved : String} {reread : Json}

/-- The key is in the text that is resolved exactly if it is in the value. -/
theorem isSome_member?_of_resolveOverrideText (htext : parse? text.toList = some document)
    (hresolved : resolveOverrideText text = some resolved)
    (hreread : parse? resolved.toList = some reread) :
    (reread.member? overrideKey).isSome ↔ (nestedOverride? document).isSome := by
  rw [resolveOverrideText_eq htext] at hresolved
  obtain rfl := Option.some.inj hresolved
  cases hfragment : document.member? overrideKey with
  | none =>
    rw [hfragment, if_neg (by simp), htext] at hreread
    obtain rfl := Option.some.inj hreread
    rw [nestedOverride?, hfragment]
    rfl
  | some fragment =>
    rw [hfragment, if_pos (by simp), Json.toList_text] at hreread
    obtain ⟨members, hobject, -⟩ := exists_resolveOverride_eq_object hfragment
    have hnumbers : ∀ t ∈ (object members).numbers, IsNumeral t.toList := by
      intro t ht
      exact isNumeral_of_parse? htext t (numbers_of_resolveOverride (hobject ▸ ht))
    rw [← member?_resolveOverride, hobject]
    exact isSome_member?_of_parse?_write (by decide) hnumbers (hobject ▸ hreread)

/-- A text with a fragment is not what it is resolved to. -/
theorem resolveOverrideText_ne_self {fragment : Json} (htext : parse? text.toList = some document)
    (hfragment : document.member? overrideKey = some fragment) :
    resolveOverrideText text ≠ some text := by
  intro hsame
  obtain ⟨members, hobject, hdepth⟩ := exists_resolveOverride_eq_object hfragment
  rw [resolveOverrideText_eq htext, hfragment, if_pos (by simp), hobject] at hsame
  have hwrite : parse? (object members).write = some document := by
    rw [← Option.some.inj hsame, Json.toList_text] at htext
    exact htext
  have hnumbers : ∀ t ∈ (object members).numbers, IsNumeral t.toList := by
    intro t ht
    exact isNumeral_of_parse? htext t (numbers_of_resolveOverride (hobject ▸ ht))
  obtain ⟨g, hg, hback⟩ := exists_member_of_parse?_write hnumbers hwrite hfragment
  exact absurd (hdepth g hg) (Nat.not_lt.2 hback)

/-- Values and texts that are resolved hold the override key if and only if the fragment held it, and
only then does resolving them again change them. -/
theorem overrideKey_survives_iff (document : Json) :
    (resolveOverride document).member? overrideKey = nestedOverride? document ∧
      (resolveOverride (resolveOverride document) = resolveOverride document ↔
        nestedOverride? document = none) ∧
      ∀ text resolved reread, parse? text.toList = some document →
        resolveOverrideText text = some resolved → parse? resolved.toList = some reread →
          ((reread.member? overrideKey).isSome ↔ (nestedOverride? document).isSome) ∧
          (resolveOverrideText resolved = some resolved ↔ nestedOverride? document = none) := by
  refine ⟨member?_resolveOverride document, ?_, fun text resolved reread htext hresolved hreread => ?_⟩
  · rw [resolveOverride_eq_self_iff, member?_resolveOverride]
  · have hkey := isSome_member?_of_resolveOverrideText htext hresolved hreread
    refine ⟨hkey, fun hsame => ?_, fun hnone => ?_⟩
    · rw [← Option.not_isSome_iff_eq_none, ← hkey]
      intro hsome
      obtain ⟨fragment, hfragment⟩ := Option.isSome_iff_exists.1 hsome
      exact resolveOverrideText_ne_self hreread hfragment hsame
    · rw [hnone] at hkey
      have hgone : ¬(reread.member? overrideKey).isSome := fun h => absurd (hkey.1 h) (by simp)
      rw [resolveOverrideText_eq hreread, if_neg hgone]

end

/-! ## A fragment with the key -/

/-- A fragment that is nothing but the override key. -/
def keyFragment : Json := .object [(overrideKey, .number "1")]

/-- A document that is nothing but this fragment. -/
def keyDocument : Json := .object [(overrideKey, keyFragment)]

/-- The key survives in the value and in the text, and resolving either again removes it. -/
theorem overrideKey_survives_keyDocument :
    resolveOverrideText "\x7b\"x-swagger-override\":\x7b\"x-swagger-override\":1\x7d\x7d" =
        some "\x7b\"x-swagger-override\":1\x7d" ∧
      (resolveOverride keyDocument).member? overrideKey = some (.number "1") ∧
      resolveOverride (resolveOverride keyDocument) ≠ resolveOverride keyDocument ∧
      resolveOverrideText "\x7b\"x-swagger-override\":1\x7d" ≠
        some "\x7b\"x-swagger-override\":1\x7d" := by
  have hkey : overrideKey ≠ numberKey := by decide
  have hone : IsNumeral "1".toList := isNumeral_iff.2 (by decide)
  have hdocument : keyDocument.text =
      "\x7b\"x-swagger-override\":\x7b\"x-swagger-override\":1\x7d\x7d" := by decide +kernel
  have hfragment : keyFragment.text = "\x7b\"x-swagger-override\":1\x7d" := by decide +kernel
  have hwithin : keyFragment.asWritten.valueWithin? (depthLimit - 1) = some keyFragment :=
    valueWithin?_asWritten_object hkey rfl rfl
  have hread : parse? keyDocument.text.toList = some keyDocument := by
    have hvalue : keyDocument.asWritten.value? = some keyDocument :=
      valueWithin?_asWritten_object hkey hwithin rfl
    rw [Json.toList_text, parse?_write, hvalue]
    · rfl
    · simpa [keyDocument, keyFragment, numbers, numbersMembers] using hone
  have hreread : parse? keyFragment.text.toList = some keyFragment := by
    have hvalue : keyFragment.asWritten.value? = some keyFragment :=
      valueWithin?_asWritten_object hkey rfl rfl
    rw [Json.toList_text, parse?_write, hvalue]
    · rfl
    · simpa [keyFragment, numbers, numbersMembers] using hone
  have hresolved : resolveOverrideText keyDocument.text = some keyFragment.text := by
    rw [resolveOverrideText_eq hread]
    rfl
  have hnested : nestedOverride? keyDocument = some (.number "1") := by rfl
  obtain ⟨hmember, hvalue, htext⟩ := overrideKey_survives_iff keyDocument
  obtain ⟨-, htext⟩ := htext _ _ _ hread hresolved hreread
  rw [hnested] at hmember hvalue htext
  rw [← hdocument, ← hfragment]
  exact ⟨hresolved, hmember, fun h => Option.some_ne_none _ (hvalue.1 h),
    fun h => Option.some_ne_none _ (htext.1 h)⟩

end ApiCli.Document

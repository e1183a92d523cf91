import Mathlib.Data.List.Infix
import ApiCli.Proofs.Json.Merge

/-!
# Merging along a path

What a merged value holds under a path of keys, which may lead through objects and arrays.

* `at?` is the part of a value under a path. An item of an array stands under its decimal index.
* `MeetAlong base patch path`: everywhere on the path the patch holds an object, and the base
  something that an object can patch.
* `MergedTo b v m` says what may stand in a place where the base has `b` and the patch `v`.
* `child?_mergeAt` is one step down a path, and `at?_mergeAt` the whole way: the merged value holds
  under the path what the two values there are merged to.

**Path by path** (`merge_along_path`): at the end of such a path the patch wins every conflict it can
express, and what it does not mention stays.
-/

namespace ApiCli

namespace Json

/-! ## Paths -/

/-- The index that a key writes, if it is the decimal of one. -/
def index? (key : String) : Option Nat :=
  let index := Nat.ofDigitChars 10 key.toList 0
  if toString index = key then some index else none

/-- The part of a value under a key: the member of the key, or the item at the index that the key
writes. -/
def child? (key : String) : Json → Option Json
  | object members => Dict.find key members
  | array items => (index? key).bind fun index => items[index]?
  | _ => none

/-- The part of a value under a path. -/
def at? : List String → Json → Option Json
  | [], v => some v
  | key :: path, v => (v.child? key).bind (at? path)

def isObject : Json → Bool
  | object _ => true
  | _ => false

/-- Whether a value can be patched in parts. -/
def hasParts : Json → Bool
  | object _ | array _ => true
  | _ => false

/-- From its beginning to its end, a path leads through objects of the patch and through objects and
arrays of the base. -/
def MeetAlong (base patch : Json) (path : List String) : Prop :=
  ∀ above, above <+: path →
    (patch.at? above).any isObject = true ∧ (base.at? above).any hasParts = true

/-- What a merged value holds in a place where the base has one value and the patch another. -/
inductive MergedTo : Json → Json → Json → Prop
  /-- Only an object changes an object. -/
  | kept : v.isObject = false → MergedTo (object members) v (object members)
  | object : MergedTo (object members) (object fields) (object merged)
  /-- No item comes or goes. -/
  | array : merged.length = items.length → MergedTo (array items) (object fields) (array merged)
  | replaced : b.isObject = false → b.hasParts = false ∨ v.isObject = false → MergedTo b v v

variable {base patch b v : Json} {key : String} {path : List String}
  {fields members items : List (String × Json)}

theorem eq_object_of_isObject (h : v.isObject = true) : ∃ members, v = object members := by
  cases v with
  | object members => exact ⟨members, rfl⟩
  | _ => cases h

theorem index?_eq_some_iff {index : Nat} : index? key = some index ↔ toString index = key := by
  have hread : Nat.ofDigitChars 10 (toString index).toList 0 = index := by
    rw [Nat.toString_eq_ofList_toDigits, String.toList_ofList, Nat.ofDigitChars_ten_toDigits]
  unfold index?
  dsimp only
  constructor
  · intro h
    split at h
    · next hkey => exact Option.some.inj h ▸ hkey
    · cases h
  · rintro rfl
    rw [hread, if_pos rfl]

theorem at?_concat (path : List String) (key : String) (v : Json) :
    v.at? (path ++ [key]) = (v.at? path).bind (child? key) := by
  induction path generalizing v with
  | nil => simp [at?]
  | cons k path ih =>
    rw [List.cons_append, at?, at?, Option.bind_assoc]
    exact congrArg _ (funext ih)

/-! ## One step -/

theorem getElem?_mergeItems (fields : List (String × Json)) (first : Nat) (items : List Json)
    (index : Nat) : (mergeItems fields first items)[index]? =
      items[index]?.map (mergeAt (Dict.find (toString (first + index)) fields)) := by
  induction items generalizing first index with
  | nil => rfl
  | cons item items ih =>
    rw [mergeItems]
    cases index with
    | zero => rfl
    | succ index =>
      rw [List.getElem?_cons_succ, List.getElem?_cons_succ, ih, Nat.add_right_comm, Nat.add_assoc]

theorem length_mergeItems (fields : List (String × Json)) (first : Nat) (items : List Json) :
    (mergeItems fields first items).length = items.length := by
  induction items generalizing first with
  | nil => rfl
  | cons item items ih => rw [mergeItems, List.length_cons, List.length_cons, ih]

/-- A part of the base is patched by the patch's part under the same key. Only an object gets parts
that it lacks. -/
theorem child?_mergeAt (hbase : base.hasParts = true) (fields : List (String × Json))
    (key : String) : (mergeAt (some (object fields)) base).child? key =
      ((base.child? key).map (mergeAt (Dict.find key fields))).or
        (if base.isObject then Dict.find key fields else none) := by
  cases base with
  | object members =>
    rw [mergeAt, child?, child?, find_addMissing, find_mergeMembers, isObject, if_pos rfl]
  | array items =>
    have hobject : (array items).isObject = false := rfl
    rw [mergeAt, child?, child?, hobject, if_neg Bool.false_ne_true, Option.or_none]
    cases hindex : index? key with
    | none => rfl
    | some index =>
      rw [Option.bind_some, Option.bind_some, getElem?_mergeItems, Nat.zero_add,
        index?_eq_some_iff.1 hindex]
  | _ => cases hbase

theorem merge_eq_mergeAt (hbase : base.hasParts = true) (hpatch : patch.isObject = true) :
    merge base patch = mergeAt (some patch) base := by
  obtain ⟨fields, rfl⟩ := eq_object_of_isObject hpatch
  cases base with
  | object _ | array _ => rfl
  | _ => cases hbase

/-- A patch that is no object changes nothing, and neither does a patch of a base without parts. -/
theorem merge_eq_base (h : patch.isObject = false ∨ base.hasParts = false) :
    merge base patch = base := by
  cases base with
  | object _ | array _ =>
    cases patch with
    | object _ => rcases h with h | h <;> cases h
    | _ => rfl
  | _ => rfl

theorem mergedTo_mergeAt (b v : Json) : MergedTo b v (mergeAt (some v) b) := by
  cases b with
  | object members =>
    cases v with
    | object fields => exact .object
    | _ => exact .kept rfl
  | array items =>
    cases v with
    | object fields => exact .array (length_mergeItems fields 0 items)
    | _ => exact .replaced rfl (.inr rfl)
  | _ => exact .replaced rfl (.inl rfl)

/-! ## The whole way -/

theorem MeetAlong.here (h : MeetAlong base patch path) :
    patch.isObject = true ∧ base.hasParts = true := by
  obtain ⟨hpatch, hbase⟩ := h [] (List.nil_prefix)
  exact ⟨hpatch, hbase⟩

/-- A path that leads on does so through parts of both values. -/
theorem MeetAlong.exists_child (h : MeetAlong base patch (key :: path)) :
    ∃ b v, base.child? key = some b ∧ patch.child? key = some v ∧ MeetAlong b v path := by
  have hbelow {above : List String} (habove : above <+: path) :=
    h (key :: above) (List.cons_prefix_cons.2 ⟨rfl, habove⟩)
  simp only [at?] at hbelow
  cases hv : patch.child? key with
  | none => simpa [hv] using hbelow List.nil_prefix
  | some v =>
    cases hb : base.child? key with
    | none => simpa [hb] using hbelow List.nil_prefix
    | some b =>
      simp only [hv, hb, Option.bind_some] at hbelow
      exact ⟨b, v, rfl, rfl, fun _ => hbelow⟩

/-- The merged value holds under the path what the two values there are merged to. -/
theorem at?_mergeAt (h : MeetAlong base patch path) :
    ∃ b v, base.at? path = some b ∧ patch.at? path = some v ∧ b.hasParts = true ∧
      v.isObject = true ∧ (mergeAt (some patch) base).at? path = some (mergeAt (some v) b) := by
  induction path generalizing base patch with
  | nil => exact ⟨base, patch, rfl, rfl, h.here.2, h.here.1, rfl⟩
  | cons key path ih =>
    obtain ⟨b, v, hb, hv, hrest⟩ := h.exists_child
    obtain ⟨hpatch, hbase⟩ := h.here
    obtain ⟨b', v', hb', hv', hparts, hobject, hmerged⟩ := ih hrest
    obtain ⟨fields, rfl⟩ := eq_object_of_isObject hpatch
    refine ⟨b', v', ?_, ?_, hparts, hobject, ?_⟩
    · rw [at?, hb, Option.bind_some, hb']
    · rw [at?, hv, Option.bind_some, hv']
    · rw [at?, child?_mergeAt hbase, hb, Option.map_some, Option.some_or, Option.bind_some]
      rw [child?] at hv
      rw [hv, hmerged]

/-- Where the two values meet, the patch wins every conflict that it can express, and what it does
not mention stays. -/
theorem merge_along_path (base patch : Json) :
    (patch.isObject = false ∨ base.hasParts = false → merge base patch = base) ∧
    ∀ path key, MeetAlong base patch path →
      (patch.at? (path ++ [key]) = none →
        (merge base patch).at? (path ++ [key]) = base.at? (path ++ [key])) ∧
      ∀ v, patch.at? (path ++ [key]) = some v →
        (∀ b, base.at? (path ++ [key]) = some b →
          ∃ m, (merge base patch).at? (path ++ [key]) = some m ∧ MergedTo b v m) ∧
        (base.at? (path ++ [key]) = none →
          (merge base patch).at? (path ++ [key]) =
            if (base.at? path).any isObject then some v else none) := by
  refine ⟨merge_eq_base, fun path key h => ?_⟩
  obtain ⟨b, p, hb, hp, hparts, hobject, hmerged⟩ := at?_mergeAt h
  obtain ⟨fields, rfl⟩ := eq_object_of_isObject hobject
  have hchild : (merge base patch).at? (path ++ [key]) =
      ((b.child? key).map (mergeAt (Dict.find key fields))).or
        (if b.isObject then Dict.find key fields else none) := by
    rw [merge_eq_mergeAt h.here.2 h.here.1, at?_concat, hmerged, Option.bind_some,
      child?_mergeAt hparts]
  have hpatch : patch.at? (path ++ [key]) = Dict.find key fields := by
    rw [at?_concat, hp, Option.bind_some, child?]
  have hbase : base.at? (path ++ [key]) = b.child? key := by
    rw [at?_concat, hb, Option.bind_some]
  rw [hchild, hpatch, hbase, hb, Option.any_some]
  refine ⟨fun hnone => ?_, fun v hv => ⟨fun b' hb' => ?_, fun hnone => ?_⟩⟩
  · rw [hnone, mergeAt_none, ite_self, Option.or_none, Option.map_id, id]
  · rw [hv, hb', Option.map_some, Option.some_or]
    exact ⟨_, rfl, mergedTo_mergeAt b' v⟩
  · rw [hnone, Option.map_none, Option.none_or, hv]

/-! ## A path through an array -/

namespace Paths

/-- An object with an array of an object and a number. -/
def pods : Json := object [("a", array [object [("x", number "1"), ("y", bool true)], number "3"])]

/-- A patch of the object in the array, and of two items that are not there. -/
def podsPatch : Json :=
  object [("a", object [("0", object [("x", number "2")]), ("00", null), ("2", null)])]

end Paths

/-- One member of an item is replaced and the other stays. Nothing is put where no item is. -/
theorem merge_along_path_item :
    MeetAlong Paths.pods Paths.podsPatch ["a", "0"] ∧
      (∃ m, (merge Paths.pods Paths.podsPatch).at? ["a", "0", "x"] = some m ∧
        MergedTo (number "1") (number "2") m) ∧
      (merge Paths.pods Paths.podsPatch).at? ["a", "0", "y"] = some (bool true) ∧
      (merge Paths.pods Paths.podsPatch).at? ["a", "2"] = none := by
  have hitem : MeetAlong Paths.pods Paths.podsPatch ["a", "0"] := by
    intro above h
    rw [← List.mem_inits] at h
    revert above
    decide
  have harray : MeetAlong Paths.pods Paths.podsPatch ["a"] :=
    fun above h => hitem above (h.trans (List.prefix_append ["a"] ["0"]))
  have hspec := (merge_along_path Paths.pods Paths.podsPatch).2
  refine ⟨hitem, ?_, ?_, ?_⟩
  · exact ((hspec ["a", "0"] "x" hitem).2 (number "2") rfl).1 (number "1") rfl
  · exact (hspec ["a", "0"] "y" hitem).1 rfl
  · exact ((hspec ["a"] "2" harray).2 null rfl).2 rfl

end Json
end ApiCli

import ApiCli.Proofs.Document.Extensions
import ApiCli.Proofs.Json.Literal

/-!
# Maps of command entries

A command map is read in two steps: all of its values are decoded again, and an entry is read from
each of them that is not an array. It may as well be read member by member
(`CommandEntry.result?_decodeMap`), with `CommandEntry.entryOf?` for one member.

**Command maps** (`CommandEntry.mimics_decodeMap`): a map is read without malformed extensions of
its entries as it is read with them, if their values are readable.
-/

namespace ApiCli

open Json Decode

namespace CommandEntry

/-- What is read of one member of a command map. An array is no entry. -/
def entryOf? (j : Json) : Option (Option CommandEntry) :=
  (reread? j).bind fun w =>
    match w with
    | .array _ => some none
    | w => (decode w).result?.map some

/-- The dictionary with an entry, if there is one. -/
def put (d : Dict CommandEntry) (name : String) : Option CommandEntry → Dict CommandEntry
  | none => d
  | some entry => d.insert name entry

/-- Values that are all decoded again before the first of them is used may as well be decoded one by
one. -/
theorem bind_rereadMembers? {α : Type} (f : α → String × Json → Option α)
    (members : List (String × Json)) (a : α) :
    ((rereadMembers? members).bind fun values => values.foldlM f a) =
      members.foldlM (fun a m => (reread? m.2).bind fun w => f a (m.1, w)) a := by
  induction members generalizing a with
  | nil => rfl
  | cons m rest ih =>
    obtain ⟨key, value⟩ := m
    rw [rereadMembers?_cons, List.foldlM_cons]
    cases reread? value with
    | none => rfl
    | some w =>
      have hrest (a' : α) := ih a'
      simp only [Option.bind_some, Option.bind_map, Function.comp_def, List.foldlM_cons,
        Option.bind_eq_bind, ← hrest]
      exact Option.bind_comm _ _

theorem result?_decodeMap (members : List (String × Json)) :
    (decodeMap (.object members)).result? =
      members.foldlM (fun d m => (entryOf? m.2).map (put d m.1)) Dict.empty := by
  have hmap : (decodeMap (.object members)).result? =
      (rereadMembers? members).bind fun values => (decodeMembers values).result? := by
    unfold decodeMap
    dsimp only
    cases rereadMembers? members <;> rfl
  have hentry (d : Dict CommandEntry) (name : String) (j : Json) :
      (do return d.insert name (← ExceptT.adapt (fun _ => DecodeError.entry name) (decode j)) :
        Decode (Dict CommandEntry)).result? = ((decode j).result?.map some).map (put d name) := by
    rw [result?_bind_pure, result?_adapt, Option.map_map]
    rfl
  rw [hmap]
  unfold decodeMembers
  simp only [result?_foldlM]
  rw [bind_rereadMembers?]
  congr 1
  funext d m
  unfold entryOf?
  cases reread? m.2 with
  | none => rfl
  | some w =>
    cases w with
    | array items => rfl
    | _ => exact hentry d m.1 _

theorem eq_of_arrayLeavesOut {keys : List String} {items items' removed : List Json}
    (h : ItemsLeaveOut (keys.map extensions.Within) items items' removed) :
    items' = items ∧ removed = [] := by
  induction keys generalizing items items' removed with
  | nil =>
    cases h
    exact ⟨rfl, rfl⟩
  | cons key keys ih =>
    cases h with
    | same => exact ⟨rfl, rfl⟩
    | cons hitem hitems =>
      obtain ⟨rfl, rfl⟩ := ih hitems
      rcases hitem with ⟨rfl, rfl⟩ | ⟨_, hmem, -⟩
      · exact ⟨rfl, rfl⟩
      · cases hmem

/-- A malformed extension stays malformed when it is decoded again. -/
theorem malformed_of_reread? {key : String} {v w : Json} (h : extensions.Malformed key v)
    (hw : reread? v = some w) : extensions.Malformed key w := by
  obtain ⟨test, htest, hv⟩ := h
  refine ⟨test, htest, ?_⟩
  simp only [extensions, List.mem_cons, List.not_mem_nil, or_false, Prod.mk.injEq] at htest
  rcases htest with ⟨-, rfl⟩ | ⟨-, rfl⟩
  · rw [isStrings, asStrings?_of_reread? hw]
    exact hv
  · rw [isBool, asBool?_of_reread? hw]
    exact hv

/-- Members of an entry that are decoded again still have the others left out, and what is left out
of them is readable. -/
theorem leaveOut_of_rereadMembers? {members members' values : List (String × Json)}
    {removed : List Json}
    (h : MembersLeaveOut extensions.Malformed extensions.Within members members' removed)
    (hvalues : rereadMembers? members = some values) :
    ∃ values' removed', rereadMembers? members' = some values' ∧
      MembersLeaveOut extensions.Malformed extensions.Within values values' removed' ∧
      (∀ v ∈ removed', v.Readable) ∧ ∀ v ∈ removed, v.Readable := by
  induction h generalizing values with
  | nil =>
    cases hvalues
    exact ⟨[], [], rfl, .nil, List.forall_mem_nil _, List.forall_mem_nil _⟩
  | @keep key value value' _ rest rest' more hwithin _ ih =>
    rw [rereadMembers?_cons] at hvalues
    obtain ⟨w, hw, hvalues⟩ := Option.bind_eq_some_iff.1 hvalues
    obtain ⟨values, hrest, rfl⟩ := Option.map_eq_some_iff.1 hvalues
    obtain ⟨values', removed', hrest', hleaves, hreadable⟩ := ih hrest
    rcases hwithin with ⟨rfl, rfl⟩ | ⟨_, hmem, -⟩
    · have hsame : extensions.Within key w w [] := .inl ⟨rfl, rfl⟩
      refine ⟨(key, w) :: values', removed', ?_, .keep hsame hleaves, hreadable⟩
      rw [rereadMembers?_cons, hw, hrest']
      rfl
    · cases hmem
  | @leave key value rest rest' more hmalformed _ ih =>
    rw [rereadMembers?_cons] at hvalues
    obtain ⟨w, hw, hvalues⟩ := Option.bind_eq_some_iff.1 hvalues
    obtain ⟨values, hrest, rfl⟩ := Option.map_eq_some_iff.1 hvalues
    obtain ⟨values', removed', hrest', hleaves, hreadable', hreadable⟩ := ih hrest
    have hvalue := (isSome_reread?_iff value).1 (Option.isSome_of_eq_some hw)
    exact ⟨values', w :: removed', hrest', .leave (malformed_of_reread? hmalformed hw) hleaves,
      List.forall_mem_cons.2 ⟨readable_of_reread? value hw, hreadable'⟩,
      List.forall_mem_cons.2 ⟨hvalue, hreadable⟩⟩

/-- What cannot be decoded again cannot without readable members. -/
theorem rereadMembers?_eq_none {members members' : List (String × Json)} {removed : List Json}
    (h : MembersLeaveOut extensions.Malformed extensions.Within members members' removed)
    (hall : ∀ v ∈ removed, v.Readable) (hnone : rereadMembers? members = none) :
    rereadMembers? members' = none := by
  induction h with
  | nil => exact hnone
  | @keep key value value' _ rest rest' more hwithin _ ih =>
    rcases hwithin with ⟨rfl, rfl⟩ | ⟨_, hmem, -⟩
    · rw [rereadMembers?_cons] at hnone ⊢
      cases hw : reread? value' with
      | none => rfl
      | some w =>
        rw [hw, Option.bind_some, Option.map_eq_none_iff] at hnone
        rw [Option.bind_some, ih hall hnone]
        rfl
    · cases hmem
  | @leave key value rest rest' more _ _ ih =>
    obtain ⟨hreadable, hmore⟩ := List.forall_mem_cons.1 hall
    obtain ⟨w, hw⟩ := Option.isSome_iff_exists.1 ((isSome_reread?_iff value).2 hreadable)
    rw [rereadMembers?_cons, hw, Option.bind_some, Option.map_eq_none_iff] at hnone
    exact ih hmore hnone

/-- What stands in front of the members of an entry is no extension, if it is `numberKey`. -/
theorem notNumber_iff {members members' : List (String × Json)} {removed : List Json}
    (h : MembersLeaveOut extensions.Malformed extensions.Within members members' removed) :
    NotNumber members' ↔ NotNumber members := by
  have hkey {key : String} (hle : ¬numberKey < key) :
      key ∈ members'.map (·.1) ↔ key ∈ members.map (·.1) := by
    refine h.mem_keys_iff fun v hmalformed => ?_
    obtain ⟨test, htest, -⟩ := hmalformed
    simp only [extensions, List.mem_cons, List.not_mem_nil, or_false, Prod.mk.injEq] at htest
    rcases htest with ⟨rfl, -⟩ | ⟨rfl, -⟩
    · exact hle (by decide)
    · exact hle (by decide)
  unfold NotNumber
  rw [hkey (String.lt_irrefl _)]
  refine imp_congr_right fun _ => exists_congr fun key => and_congr_left fun hlt => ?_
  exact hkey (String.lt_asymm hlt)

theorem entryOf?_object {values : List (String × Json)} {members : List (String × Json)}
    (hvalues : rereadMembers? members = some values) (hkeys : KeysIncrease values)
    (hnumber : NotNumber values) :
    entryOf? (.object members) = (decode (.object values)).result?.map some := by
  rw [entryOf?, reread?, hvalues, Option.bind_some, (ofMembers?_eq_object_iff hkeys).2 hnumber]
  rfl

/-- An object that stands for a number is no entry. -/
theorem entryOf?_eq_none {members : List (String × Json)} {values : List (String × Json)}
    (hvalues : rereadMembers? members = some values) (hkeys : KeysIncrease values)
    (hnumber : ¬NotNumber values) : entryOf? (.object members) = none := by
  rw [entryOf?, reread?, hvalues, Option.bind_some]
  cases hread : ofMembers? values with
  | none => rfl
  | some w =>
    rcases ofMembers?_cases hread with rfl | ⟨_, _, -, -, rfl⟩
    · exact absurd ((ofMembers?_eq_object_iff hkeys).1 hread) hnumber
    · rfl

theorem keysIncrease_of_rereadMembers? {members values : List (String × Json)}
    (hvalues : rereadMembers? members = some values) (hkeys : KeysIncrease members) :
    KeysIncrease values := by
  rw [Dict.keysIncrease_iff, keys_of_rereadMembers? hvalues, ← Dict.keysIncrease_iff]
  exact hkeys

/-- Malformed extensions of a command entry make no difference. -/
theorem mimics_entryOf? {j j' : Json} {removed : List Json} (hcanonical : j.Canonical)
    (h : LeavesOut j j' removed) : Mimics removed (entryOf? j) (entryOf? j') := by
  rcases h with ⟨rfl, rfl⟩ | ⟨members, members', rfl, rfl, hmembers⟩ |
    ⟨items, items', rfl, rfl, hitems⟩
  · exact .refl _
  · cases hvalues : rereadMembers? members with
    | none =>
      have hnone {members : List (String × Json)} (h : rereadMembers? members = none) :
          entryOf? (.object members) = none := by
        rw [entryOf?, reread?, h]
        rfl
      refine ⟨fun hall => ?_, fun _ => hnone hvalues⟩
      rw [hnone hvalues, hnone (rereadMembers?_eq_none hmembers hall hvalues)]
    | some values =>
      obtain ⟨values', removed', hvalues', hleaves, hreadable', hreadable⟩ :=
        leaveOut_of_rereadMembers? hmembers hvalues
      refine ⟨fun _ => ?_, fun ⟨v, hv, hnot⟩ => absurd (hreadable v hv) hnot⟩
      have hkeys := keysIncrease_of_rereadMembers? hvalues hcanonical.1
      have hkeys' := hleaves.keysIncrease hkeys
      by_cases hnumber : NotNumber values
      · rw [entryOf?_object hvalues hkeys hnumber,
          entryOf?_object hvalues' hkeys' ((notNumber_iff hleaves).2 hnumber)]
        refine congrArg (Option.map some) (Mimics.eq ?_ hreadable')
        exact tolerates.mimics_fromMembers hleaves (Dict.mk values hkeys).nodup_keys
          (fun _ _ _ hmem => by cases hmem) (fun _ _ => ⟨List.not_mem_nil, List.not_mem_nil⟩)
          fun key _ => tolerates.blank_empty key
      · rw [entryOf?_eq_none hvalues hkeys hnumber,
          entryOf?_eq_none hvalues' hkeys' (mt (notNumber_iff hleaves).1 hnumber)]
  · obtain ⟨rfl, rfl⟩ := eq_of_arrayLeavesOut hitems
    exact .refl _

theorem mimics_decodeMap {j j' : Json} {removed : List Json} (hcanonical : j.Canonical)
    (h : DictLeavesOut LeavesOut j j' removed) :
    Mimics removed (decodeMap j).result? (decodeMap j').result? := by
  rcases h with ⟨rfl, rfl⟩ | ⟨members, members', rfl, rfl, hmembers⟩
  · exact .refl _
  · rw [result?_decodeMap, result?_decodeMap]
    exact mimics_foldlM (fun _ => entryOf?) put
      (fun m hm _ _ hleaves => mimics_entryOf? (canonical_of_mem hcanonical.2 hm) hleaves) hmembers _

end CommandEntry

end ApiCli

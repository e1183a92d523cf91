import ApiCli.Json.Number
import ApiCli.Json.Record
import ApiCli.Proofs.Json.Canonical
import ApiCli.Proofs.Json.Numeral

/-!
# Values that can be decoded again

Where a value of any shape can stand, it is decoded once more. A value is readable if each of its
objects stands for something: with `numberKey` in front an object has to stand for a number.

* `isSome_reread?_iff`: the readable values are those that can be decoded again.
* `readable_of_reread?`: what a value is then can be decoded again and again.
* A value that is decoded again keeps its shape (`asOptionalString?_of_reread?` and its companions).
-/

namespace ApiCli.Json

variable {v w : Json} {members values : List (String × Json)} {items : List Json}

/-- Every object of a value stands for something. -/
def Readable (v : Json) : Prop := v.Everywhere fun members => (ofMembers? members).isSome = true

/-! ## Shapes -/

theorem reread?_object_cases (h : reread? (object members) = some w) :
    (∃ values, w = object values) ∨ ∃ text, w = number text := by
  obtain ⟨values, -, hread⟩ := Option.bind_eq_some_iff.1 h
  rcases ofMembers?_cases hread with rfl | ⟨_, _, -, -, rfl⟩
  · exact .inl ⟨values, rfl⟩
  · exact .inr ⟨_, rfl⟩

theorem asString?_of_reread? (h : reread? v = some w) : asString? w = asString? v := by
  cases v with
  | object members => rcases reread?_object_cases h with ⟨_, rfl⟩ | ⟨_, rfl⟩ <;> rfl
  | array items =>
    obtain ⟨values, -, rfl⟩ := Option.map_eq_some_iff.1 h
    rfl
  | _ =>
    cases h
    rfl

theorem asOptionalString?_of_reread? (h : reread? v = some w) :
    asOptionalString? w = asOptionalString? v := by
  cases v with
  | object members => rcases reread?_object_cases h with ⟨_, rfl⟩ | ⟨_, rfl⟩ <;> rfl
  | array items =>
    obtain ⟨values, -, rfl⟩ := Option.map_eq_some_iff.1 h
    rfl
  | _ =>
    cases h
    rfl

theorem asBool?_of_reread? (h : reread? v = some w) : asBool? w = asBool? v := by
  cases v with
  | object members => rcases reread?_object_cases h with ⟨_, rfl⟩ | ⟨_, rfl⟩ <;> rfl
  | array items =>
    obtain ⟨values, -, rfl⟩ := Option.map_eq_some_iff.1 h
    rfl
  | _ =>
    cases h
    rfl

theorem rereadItems?_cons {item : Json} :
    rereadItems? (item :: items) =
      (reread? item).bind fun w => (rereadItems? items).map (w :: ·) := by
  rw [rereadItems?]
  cases reread? item <;> rfl

theorem rereadMembers?_cons {key : String} {value : Json} :
    rereadMembers? ((key, value) :: members) =
      (reread? value).bind fun w => (rereadMembers? members).map ((key, w) :: ·) := by
  rw [rereadMembers?]
  cases reread? value <;> rfl

theorem keys_of_rereadMembers? (h : rereadMembers? members = some values) :
    values.map (·.1) = members.map (·.1) := by
  induction members generalizing values with
  | nil =>
    cases h
    rfl
  | cons m rest ih =>
    rw [rereadMembers?_cons] at h
    obtain ⟨w, -, h⟩ := Option.bind_eq_some_iff.1 h
    obtain ⟨more, hmore, rfl⟩ := Option.map_eq_some_iff.1 h
    rw [List.map_cons, List.map_cons, ih hmore]

theorem mapM_asString?_of_rereadItems? {items values : List Json}
    (h : rereadItems? items = some values) : values.mapM asString? = items.mapM asString? := by
  induction items generalizing values with
  | nil =>
    cases h
    rfl
  | cons item rest ih =>
    rw [rereadItems?_cons] at h
    obtain ⟨w, hw, h⟩ := Option.bind_eq_some_iff.1 h
    obtain ⟨more, hmore, rfl⟩ := Option.map_eq_some_iff.1 h
    rw [List.mapM_cons, List.mapM_cons, asString?_of_reread? hw, ih hmore]

theorem asStrings?_of_reread? (h : reread? v = some w) : asStrings? w = asStrings? v := by
  cases v with
  | object members => rcases reread?_object_cases h with ⟨_, rfl⟩ | ⟨_, rfl⟩ <;> rfl
  | array items =>
    obtain ⟨values, hvalues, rfl⟩ := Option.map_eq_some_iff.1 h
    exact mapM_asString?_of_rereadItems? hvalues
  | _ =>
    cases h
    rfl

/-! ## Readable values -/

/-- What stands in front is a key, and under `numberKey` a string. -/
theorem isSome_ofMembers?_cons (key : String) (value : Json) (rest : List (String × Json)) :
    (ofMembers? ((key, value) :: rest)).isSome =
      (decide (key ≠ numberKey) ||
        (rest.isEmpty && (asString? value).any fun text => (numeral? text.toList).isSome)) := by
  unfold ofMembers?
  dsimp only
  by_cases hkey : key = numberKey
  · rw [if_pos hkey]
    cases value <;> cases rest <;> simp [hkey, asString?]
  · rw [if_neg hkey]
    simp [hkey]

theorem isSome_ofMembers?_of_rereadMembers? (h : rereadMembers? members = some values) :
    (ofMembers? values).isSome = (ofMembers? members).isSome := by
  cases members with
  | nil =>
    cases h
    rfl
  | cons m rest =>
    obtain ⟨key, value⟩ := m
    rw [rereadMembers?_cons] at h
    obtain ⟨w, hw, h⟩ := Option.bind_eq_some_iff.1 h
    obtain ⟨more, hmore, rfl⟩ := Option.map_eq_some_iff.1 h
    have hempty : more.isEmpty = rest.isEmpty := by
      rw [← List.isEmpty_map, keys_of_rereadMembers? hmore, List.isEmpty_map]
    rw [isSome_ofMembers?_cons, isSome_ofMembers?_cons, hempty, asString?_of_reread? hw]

mutual

theorem isSome_reread?_iff : (v : Json) → ((reread? v).isSome = true ↔ v.Readable)
  | null | bool _ | number _ | string _ => iff_of_true rfl trivial
  | array items => by
    rw [reread?, Option.isSome_map]
    exact isSome_rereadItems?_iff items
  | object members => by
    have hmembers := isSome_rereadMembers?_iff members
    rw [reread?]
    change _ ↔ _ ∧ _
    rw [← hmembers]
    cases h : rereadMembers? members with
    | none => simp
    | some values => simp [isSome_ofMembers?_of_rereadMembers? h]

theorem isSome_rereadItems?_iff : (items : List Json) → ((rereadItems? items).isSome = true ↔
    EverywhereItems (fun members => (ofMembers? members).isSome = true) items)
  | [] => iff_of_true rfl trivial
  | item :: rest => by
    have hitem := isSome_reread?_iff item
    have hrest := isSome_rereadItems?_iff rest
    rw [rereadItems?_cons, EverywhereItems, ← hrest]
    change _ ↔ item.Readable ∧ _
    rw [← hitem]
    cases reread? item <;> simp

theorem isSome_rereadMembers?_iff : (members : List (String × Json)) →
    ((rereadMembers? members).isSome = true ↔
      EverywhereMembers (fun members => (ofMembers? members).isSome = true) members)
  | [] => iff_of_true rfl trivial
  | (key, value) :: rest => by
    have hvalue := isSome_reread?_iff value
    have hrest := isSome_rereadMembers?_iff rest
    rw [rereadMembers?_cons, EverywhereMembers, ← hrest]
    change _ ↔ value.Readable ∧ _
    rw [← hvalue]
    cases reread? value <;> simp

end

mutual

theorem readable_of_reread? : (v : Json) → {w : Json} → reread? v = some w → w.Readable
  | null, _, h | bool _, _, h | number _, _, h | string _, _, h => by
    cases h
    trivial
  | array items, _, h => by
    obtain ⟨values, hvalues, rfl⟩ := Option.map_eq_some_iff.1 h
    exact readable_of_rereadItems? items hvalues
  | object members, _, h => by
    obtain ⟨values, hvalues, hread⟩ := Option.bind_eq_some_iff.1 h
    rcases ofMembers?_cases hread with rfl | ⟨_, _, -, -, rfl⟩
    · exact ⟨Option.isSome_of_eq_some hread, readable_of_rereadMembers? members hvalues⟩
    · trivial

theorem readable_of_rereadItems? : (items : List Json) → {values : List Json} →
    rereadItems? items = some values →
      EverywhereItems (fun members => (ofMembers? members).isSome = true) values
  | [], _, h => by
    cases h
    trivial
  | item :: rest, _, h => by
    rw [rereadItems?_cons] at h
    obtain ⟨w, hw, h⟩ := Option.bind_eq_some_iff.1 h
    obtain ⟨more, hmore, rfl⟩ := Option.map_eq_some_iff.1 h
    exact ⟨readable_of_reread? item hw, readable_of_rereadItems? rest hmore⟩

theorem readable_of_rereadMembers? : (members : List (String × Json)) →
    {values : List (String × Json)} → rereadMembers? members = some values →
      EverywhereMembers (fun members => (ofMembers? members).isSome = true) values
  | [], _, h => by
    cases h
    trivial
  | (key, value) :: rest, _, h => by
    rw [rereadMembers?_cons] at h
    obtain ⟨w, hw, h⟩ := Option.bind_eq_some_iff.1 h
    obtain ⟨more, hmore, rfl⟩ := Option.map_eq_some_iff.1 h
    exact ⟨readable_of_reread? value hw, readable_of_rereadMembers? rest hmore⟩

end

end ApiCli.Json

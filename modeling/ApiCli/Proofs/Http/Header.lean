import ApiCli.Http.Header
import ApiCli.Proofs.Dict
import ApiCli.Proofs.Text.Utf8

/-!
# Names of header fields

A field is held under the lower-case form of its name, and that form is a name of its own
(`name?_name?`).

* `HeldByName`: every field is held under the form of some name. Fields that are put into the
  standard ones are.
* `fieldsNamed h name` are the fields of a name in whatever letter case. Among fields that are held
  by name there is at most one (`HeldByName.fieldsNamed`).
-/

namespace ApiCli.Headers

variable {h h' : Headers} {s name key value : String} {c : Char}

/-! ## Forms of names -/

theorem lt_of_isNameChar (hc : isNameChar c = true) : c.toNat < 128 := by
  rcases Bool.or_eq_true_iff.1 hc with hc | hc
  · exact Utf8.lt_of_isAlphanum hc
  · have hall : ['!', '#', '$', '%', '&', '\'', '*', '+', '-', '.', '^', '_', '\x60', '|',
        '~'].all (·.toNat < 128) = true := by decide
    exact of_decide_eq_true (List.all_eq_true.1 hall c (List.contains_iff_mem.1 hc))

theorem toLower_of_isNameChar (hc : isNameChar c = true) :
    isNameChar c.toLower = true ∧ c.toLower.toLower = c.toLower := by
  obtain ⟨n, hn, rfl⟩ := Utf8.exists_ofNat (lt_of_isNameChar hc)
  revert hc
  revert n
  decide

/-- The form under which a name is held is a name that is held as it is. -/
theorem name?_name? (hs : name? s = some key) : name? key = some key := by
  unfold name? at hs
  dsimp only at hs
  split at hs
  · cases hs
  · next hvalid =>
    obtain rfl := Option.some.inj hs
    simp only [Bool.or_eq_true, not_or, List.isEmpty_iff, decide_eq_true_eq, Bool.not_eq_true',
      Bool.not_eq_false, List.all_eq_true] at hvalid
    obtain ⟨⟨hne, hlength⟩, hchars⟩ := hvalid
    have hmap : (s.toList.map Char.toLower).map Char.toLower = s.toList.map Char.toLower := by
      rw [List.map_map, List.map_inj_left]
      exact fun c hc => (toLower_of_isNameChar (hchars c hc)).2
    have hall : (s.toList.map Char.toLower).all isNameChar = true := by
      rw [List.all_map, List.all_eq_true]
      exact fun c hc => (toLower_of_isNameChar (hchars c hc)).1
    rw [name?, String.toList_ofList, hmap, hall]
    simp [hne, hlength]

/-! ## Fields held by name -/

/-- Every field is held under the form of a name. -/
def HeldByName (h : Headers) : Prop := ∀ key value, h.get? key = some value → name? key = some key

theorem HeldByName.insert (hh : h.HeldByName) (hname : name? name = some key) (value : String) :
    HeldByName (h.insert key value) :=
  Dict.forall_get?_insert hh (name?_name? hname)

theorem heldByName_standard (accept : String) : (standard accept).HeldByName := by
  have hempty : HeldByName Dict.empty := fun key value hget => by cases hget
  have hcontent : name? "content-type" = some "content-type" := by decide
  have haccept : name? "accept" = some "accept" := by decide
  exact (hempty.insert hcontent _).insert haccept _

/-- The fields of a name, in whatever letter case they are written. -/
def fieldsNamed (h : Headers) (name : String) : List (String × String) :=
  h.entries.filter fun f => name? f.1 = name? name

/-- There is one field of a name that is in use. -/
theorem HeldByName.fieldsNamed (hh : h.HeldByName) (hget : h.get? key = some value) :
    h.fieldsNamed key = [(key, value)] := by
  rw [← Dict.filter_eq_of_get? hget, Headers.fieldsNamed, hh key value hget]
  refine List.filter_congr fun f hf => ?_
  rw [hh f.1 f.2 (Dict.get?_eq_some_iff.2 hf)]
  simp

end ApiCli.Headers

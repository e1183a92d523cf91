import ApiCli.Proofs.Json.Again
import ApiCli.Proofs.Json.Regular
import ApiCli.Proofs.Text.Utf8

/-!
# Merging one patch after the other

Encoded patches are merged into encoded data one after the other. A patch that is rejected changes
nothing.

* `mergeBytes_of_parseBytes?` is one step, from data that is JSON.
* `mergeAll_spec` is the run: the state holds the value that merging the patches' values gives.

The invariant is that the state can be read again. A merged value that is not literal breaks it: its
text stands for something else (`mergeAll_numberData`).

**Refinement** (`mergeAll_refines_merge`): merging octets does what merging values does.
-/

namespace ApiCli

namespace Json

variable {data patch next : List UInt8} {base value : Json} {values : List Json}

/-- Patches merged one after the other into encoded data. A patch that is rejected changes
nothing. -/
def mergeAll (data : List UInt8) (patches : List (List UInt8)) : List UInt8 :=
  patches.foldl (fun state patch => (mergeBytes state patch).toOption.getD state) data

/-- The values of the patches that are JSON. -/
def decoded (patches : List (List UInt8)) : List Json := patches.filterMap parseBytes?

/-- The octets of a patch without members. -/
def emptyPatch : List UInt8 := [0x7b, 0x7d]

/-- Whatever is merged of the values, in their order, is literal. -/
def LiteralThroughout (base : Json) (values : List Json) : Prop :=
  ∀ earlier, earlier <+: values → earlier ≠ [] → (earlier.foldl merge base).Literal

theorem LiteralThroughout.head (h : LiteralThroughout base (value :: values)) :
    (merge base value).Literal :=
  h [value] ⟨values, rfl⟩ (List.cons_ne_nil _ _)

theorem LiteralThroughout.tail (h : LiteralThroughout base (value :: values)) :
    LiteralThroughout (merge base value) values := by
  intro earlier hearlier _
  exact h (value :: earlier) (List.cons_prefix_cons.2 ⟨rfl, hearlier⟩) (List.cons_ne_nil _ _)

theorem literal_foldl_merge (hbase : base.Literal) (h : ∀ v ∈ values, v.Literal) :
    (values.foldl merge base).Literal := by
  induction values generalizing base with
  | nil => exact hbase
  | cons v values ih =>
    obtain ⟨hv, hvalues⟩ := List.forall_mem_cons.1 h
    exact ih (hbase.merge hv) hvalues

/-- Literal values merge to literal values throughout. -/
theorem literalThroughout_of_forall (hbase : base.Literal) (h : ∀ v ∈ values, v.Literal) :
    LiteralThroughout base values :=
  fun _ hearlier _ => literal_foldl_merge hbase fun v hv => h v (hearlier.subset hv)

/-! ## One step -/

theorem Regular.of_parseBytes? (h : parseBytes? data = some value) : value.Regular := by
  obtain ⟨text, -, htext⟩ := Option.bind_eq_some_iff.1 h
  exact Regular.of_parse? htext

/-- The octets of a literal value are read as the value. -/
theorem Regular.parseBytes?_encode (h : value.Regular) (hliteral : value.Literal) :
    parseBytes? (Utf8.encode value.write) = some value := by
  rw [parseBytes?, Utf8.decode?_encode, Option.bind_some]
  exact h.parse?_write_iff.2 hliteral

theorem mergeBytes_of_parseBytes?_eq_none (h : parseBytes? data = none) (patch : List UInt8) :
    mergeBytes data patch = .error .base := by
  rw [mergeBytes, h]

/-- From data that is JSON, a patch that is none is rejected and any other is merged. -/
theorem mergeBytes_of_parseBytes? (h : parseBytes? data = some base) (patch : List UInt8) :
    mergeBytes data patch =
      match parseBytes? patch with
      | none => .error .patch
      | some value => .ok (Utf8.encode (merge base value).write) := by
  cases hpatch : parseBytes? patch <;> rw [mergeBytes, h, hpatch]

/-- A merged value that is literal is not changed by its patch, nor by one without members. -/
theorem mergeBytes_again (hbase : base.Regular) (hpatch : parseBytes? patch = some value)
    (hliteral : (merge base value).Literal) :
    mergeBytes (Utf8.encode (merge base value).write) emptyPatch =
        .ok (Utf8.encode (merge base value).write) ∧
      mergeBytes (Utf8.encode (merge base value).write) patch =
        .ok (Utf8.encode (merge base value).write) := by
  have hvalue : value.Regular := .of_parseBytes? hpatch
  have hread := (hbase.merge hvalue).parseBytes?_encode hliteral
  have hempty : parseBytes? emptyPatch = some (object []) := rfl
  refine ⟨?_, ?_⟩
  · rw [mergeBytes_of_parseBytes? hread, hempty]
    dsimp only
    rw [merge_empty]
  · rw [mergeBytes_of_parseBytes? hread, hpatch]
    dsimp only
    rw [merge_merge_self hvalue.canonical]

/-! ## All steps -/

theorem mergeAll_cons (data patch : List UInt8) (patches : List (List UInt8)) :
    mergeAll data (patch :: patches) =
      mergeAll ((mergeBytes data patch).toOption.getD data) patches := rfl

/-- Data that is not JSON stays as it is. -/
theorem mergeAll_of_parseBytes?_eq_none (h : parseBytes? data = none)
    (patches : List (List UInt8)) : mergeAll data patches = data := by
  induction patches with
  | nil => rfl
  | cons patch patches ih =>
    rw [mergeAll_cons, mergeBytes_of_parseBytes?_eq_none h]
    exact ih

/-- The state holds what the values of the patches are merged to, and is its text as soon as one
patch is merged. -/
theorem mergeAll_spec {patches : List (List UInt8)} (h : parseBytes? data = some base)
    (hliteral : LiteralThroughout base (decoded patches)) :
    parseBytes? (mergeAll data patches) = some ((decoded patches).foldl merge base) ∧
      mergeAll data patches =
        if decoded patches = [] then data
        else Utf8.encode ((decoded patches).foldl merge base).write := by
  induction patches generalizing data base with
  | nil => exact ⟨h, rfl⟩
  | cons patch patches ih =>
    rw [mergeAll_cons, mergeBytes_of_parseBytes? h]
    cases hpatch : parseBytes? patch with
    | none =>
      have hdecoded : decoded (patch :: patches) = decoded patches :=
        List.filterMap_cons_none hpatch
      rw [hdecoded] at hliteral ⊢
      exact ih h hliteral
    | some value =>
      have hdecoded : decoded (patch :: patches) = value :: decoded patches :=
        List.filterMap_cons_some hpatch
      rw [hdecoded] at hliteral ⊢
      have hregular : (merge base value).Regular :=
        (Regular.of_parseBytes? h).merge (Regular.of_parseBytes? hpatch)
      obtain ⟨hread, hstate⟩ := ih (hregular.parseBytes?_encode hliteral.head) hliteral.tail
      refine ⟨hread, ?_⟩
      rw [if_neg (List.cons_ne_nil _ _), List.foldl_cons]
      refine hstate.trans ?_
      split
      · next hnone => rw [hnone, List.foldl_nil]
      · rfl

/-- Merging octets does what merging values does. From data that is not JSON every step fails for
it. From other data a step fails if and only if its patch is not JSON, the state is the text of the
merged values, and merging nothing or the same once more gives the same text. -/
theorem mergeAll_refines_merge (data : List UInt8) (patches : List (List UInt8))
    (next : List UInt8) :
    (parseBytes? data = none →
      mergeAll data patches = data ∧ mergeBytes (mergeAll data patches) next = .error .base) ∧
    ∀ base, parseBytes? data = some base → LiteralThroughout base (decoded patches) →
      (mergeAll data patches =
        if decoded patches = [] then data
        else Utf8.encode ((decoded patches).foldl merge base).write) ∧
      (parseBytes? next = none → mergeBytes (mergeAll data patches) next = .error .patch) ∧
      ∀ value, parseBytes? next = some value → ∃ result,
        result = Utf8.encode (merge ((decoded patches).foldl merge base) value).write ∧
        mergeBytes (mergeAll data patches) next = .ok result ∧
        ((merge ((decoded patches).foldl merge base) value).Literal →
          mergeBytes result emptyPatch = .ok result ∧ mergeBytes result next = .ok result) := by
  refine ⟨fun h => ?_, fun base h hliteral => ?_⟩
  · rw [mergeAll_of_parseBytes?_eq_none h]
    exact ⟨rfl, mergeBytes_of_parseBytes?_eq_none h next⟩
  · obtain ⟨hread, hstate⟩ := mergeAll_spec h hliteral
    have hstep := mergeBytes_of_parseBytes? hread next
    refine ⟨hstate, fun hnext => ?_, fun value hnext => ?_⟩
    · rw [hstep, hnext]
    · refine ⟨_, rfl, ?_, fun hvalue => ?_⟩
      · rw [hstep, hnext]
      · exact mergeBytes_again (Regular.of_parseBytes? hread) hnext hvalue

/-- A member is added, a patch that is not JSON is rejected, and a number is replaced. -/
theorem mergeAll_refines_merge_object :
    let data := Utf8.encode (object [("a", number "1")]).write
    let patch := Utf8.encode (object [("b", bool true)]).write
    let next := Utf8.encode (object [("a", number "2")]).write
    let result := Utf8.encode (object [("a", number "2"), ("b", bool true)]).write
    mergeAll data [patch, [0x7b]] =
        Utf8.encode (object [("a", number "1"), ("b", bool true)]).write ∧
      mergeBytes (mergeAll data [patch, [0x7b]]) next = .ok result ∧
      mergeBytes result emptyPatch = .ok result ∧ mergeBytes result next = .ok result := by
  intro data patch next result
  have hone : (object [("a", number "1")]).Literal := literal_singleton (by decide) trivial
  have htrue : (object [("b", bool true)]).Literal := literal_singleton (by decide) trivial
  have htwo : (object [("a", number "2")]).Literal := literal_singleton (by decide) trivial
  have hregular {digit : String} (h : numeral? digit.toList = some digit.toList) :
      (object [("a", number digit)]).Regular :=
    .singleton (.number (isNumeral_iff.2 h)) (Nat.zero_lt_succ _)
  have hdata : parseBytes? data = some (object [("a", number "1")]) :=
    (hregular (by decide)).parseBytes?_encode hone
  have hpatch : parseBytes? patch = some (object [("b", bool true)]) :=
    (Regular.singleton (.bool true) (by decide)).parseBytes?_encode htrue
  have hnext : parseBytes? next = some (object [("a", number "2")]) :=
    (hregular (by decide)).parseBytes?_encode htwo
  have hdecoded : decoded [patch, [0x7b]] = [object [("b", bool true)]] := by
    have hinvalid : parseBytes? [0x7b] = none := rfl
    simp [decoded, hpatch, hinvalid]
  have hthroughout : LiteralThroughout (object [("a", number "1")]) (decoded [patch, [0x7b]]) := by
    rw [hdecoded]
    exact literalThroughout_of_forall hone (List.forall_mem_singleton.2 htrue)
  obtain ⟨-, hspec⟩ := mergeAll_refines_merge data [patch, [0x7b]] next
  obtain ⟨hstate, -, hstep⟩ := hspec _ hdata hthroughout
  obtain ⟨result', hresult, hmerged, hagain⟩ := hstep _ hnext
  rw [hdecoded] at hstate hresult hagain
  obtain rfl : result' = result := hresult
  exact ⟨hstate, hmerged, hagain ((hone.merge htrue).merge htwo)⟩

/-! ## A state that cannot be read -/

/-- An object that has `numberKey` as its least key, but not in front. -/
def numberData : List UInt8 :=
  Utf8.encode "\x7b\"a\":1,\"$serde_json::private::Number\":\"x\"\x7d".toList

/-- The data is JSON, but merging nothing into it puts `numberKey` in front, and then merging fails
for the data. -/
theorem mergeAll_numberData : (parseBytes? numberData).isSome ∧ (parseBytes? emptyPatch).isSome ∧
    mergeAll numberData [emptyPatch] =
      Utf8.encode "\x7b\"$serde_json::private::Number\":\"x\",\"a\":1\x7d".toList ∧
    mergeBytes (mergeAll numberData [emptyPatch]) emptyPatch = .error .base := by
  decide +kernel

end Json
end ApiCli

import ApiCli.Document.Load
import ApiCli.Proofs.Document.Override
import ApiCli.Proofs.Json.Regular
import ApiCli.Proofs.Logged

/-!
# Loading resolved texts

A document is loaded from a text, or the text is resolved first and what comes out is parsed and
decoded.

* `load_eq_notJson_iff`: both fail for the text in the same cases.
* `regular_resolveOverride`: a resolved document can stand in a text, as the document does.
* `parse?_resolved_iff`: the resolved text is read as the resolved document, unless that has an
  object that is not literal.

**Agreement** (`load_agrees_with_resolveOverrideText`): both ways give the same document or the same
error, and note the same events.
-/

namespace ApiCli.Document

open Json

variable {text resolved : String} {document : Json}

/-- Load a text that is resolved already. -/
def loadResolved (text : String) : ExceptT LoadError Logged Document :=
  match parse? text.toList with
  | none => throw .notJson
  | some j => ExceptT.adapt LoadError.malformed (decode j)

theorem loadResolved_of_parse? (h : parse? text.toList = some document) :
    loadResolved text = ExceptT.adapt LoadError.malformed (decode document) := by
  rw [loadResolved, h]

theorem load_of_parse? (h : parse? text.toList = some document) :
    load text = ExceptT.adapt LoadError.malformed (decode (resolveOverride document)) := by
  rw [load, h]

/-- Loading fails for the text if the text cannot be resolved. -/
theorem load_eq_notJson_iff (text : String) :
    (load text).run.value = .error .notJson ↔ resolveOverrideText text = none := by
  cases h : parse? text.toList with
  | none =>
    have hload : (load text).run.value = .error .notJson := by
      rw [load, h]
      rfl
    exact iff_of_true hload (by rw [resolveOverrideText, h, Option.map_none])
  | some document =>
    have hresolved : resolveOverrideText text ≠ none := by
      rw [resolveOverrideText_eq h]
      exact Option.some_ne_none _
    refine iff_of_false (fun hload => ?_) hresolved
    rw [load_of_parse? h, Logged.value_run_adapt] at hload
    cases hdecoded : (decode (resolveOverride document)).run.value with
    | error cause => simp [hdecoded, Except.mapError] at hload
    | ok decoded => simp [hdecoded, Except.mapError] at hload

theorem regular_resolveOverride (h : document.Regular) : (resolveOverride document).Regular := by
  unfold resolveOverride
  split
  · next members =>
    split
    · next fragment hfragment => exact (h.sublist List.filter_sublist).merge (h.find hfragment)
    · exact h
  · exact h

/-- The resolved text is read as the resolved document if nothing was resolved, or if the resolved
document is literal. -/
theorem parse?_resolved_iff (h : parse? text.toList = some document)
    (hresolved : resolveOverrideText text = some resolved) :
    parse? resolved.toList = some (resolveOverride document) ↔
      document.member? overrideKey = none ∨ (resolveOverride document).Literal := by
  rw [resolveOverrideText_eq h] at hresolved
  obtain rfl := Option.some.inj hresolved
  cases hfragment : document.member? overrideKey with
  | none =>
    rw [if_neg (by simp), resolveOverride_of_member?_eq_none hfragment]
    exact iff_of_true h (.inl rfl)
  | some fragment =>
    have hregular := regular_resolveOverride (Regular.of_parse? h)
    rw [if_pos (by simp), Json.toList_text, hregular.parse?_write_iff]
    simp

/-- Loading a text and loading what it is resolved to agree. Both fail for the text in the same
cases. A text without the override key is resolved to itself. Any other is resolved to the text of
the resolved document, which is loaded as the document if it is literal. -/
theorem load_agrees_with_resolveOverrideText (text : String) :
    ((load text).run.value = .error .notJson ↔ resolveOverrideText text = none) ∧
    ∀ resolved, resolveOverrideText text = some resolved →
      ∃ document, parse? text.toList = some document ∧
        (document.member? overrideKey = none → resolved = text) ∧
        (parse? resolved.toList = some (resolveOverride document) ↔
          document.member? overrideKey = none ∨ (resolveOverride document).Literal) ∧
        (document.member? overrideKey = none ∨ (resolveOverride document).Literal →
          loadResolved resolved = load text) := by
  refine ⟨load_eq_notJson_iff text, fun resolved hresolved => ?_⟩
  obtain ⟨document, hdocument, -⟩ := Option.map_eq_some_iff.1 hresolved
  have hread := parse?_resolved_iff hdocument hresolved
  refine ⟨document, hdocument, fun hnone => ?_, hread, fun hliteral => ?_⟩
  · rw [resolveOverrideText_eq hdocument, hnone, if_neg (by simp)] at hresolved
    exact (Option.some.inj hresolved).symm
  · rw [loadResolved_of_parse? (hread.2 hliteral), load_of_parse? hdocument]

/-! ## A fragment that adds a member -/

/-- A fragment adds a member to a document. The number keeps its spelling. -/
theorem load_agrees_with_resolveOverrideText_member :
    let document := object [("a", number "1.50"), (overrideKey, object [("b", bool true)])]
    let resolved := object [("a", number "1.50"), ("b", bool true)]
    resolveOverrideText document.text = some resolved.text ∧
      parse? resolved.text.toList = some resolved ∧
      loadResolved resolved.text = load document.text := by
  intro document resolved
  have hnumeral : IsNumeral "1.50".toList := isNumeral_iff.2 (by decide)
  have hcanonical : document.Canonical := by
    refine ⟨List.pairwise_pair.2 (by decide), trivial, ?_, trivial⟩
    exact ⟨List.pairwise_singleton _ _, trivial, trivial⟩
  have hregular : document.Regular :=
    ⟨hcanonical, List.forall_mem_singleton.2 hnumeral, by decide⟩
  have hliteral : document.Literal := by
    refine ⟨fun hmem => absurd hmem (by decide), trivial, ?_, trivial⟩
    exact literal_singleton (by decide) trivial
  have hdocument : parse? document.text.toList = some document := by
    rw [Json.toList_text]
    exact hregular.parse?_write_iff.2 hliteral
  have hmerged : resolveOverride document = resolved := rfl
  have hresolved : resolveOverrideText document.text = some resolved.text := by
    rw [resolveOverrideText_eq hdocument, hmerged]
    rfl
  have hliteral' : resolved.Literal :=
    ⟨fun hmem => absurd hmem (by decide), trivial, trivial, trivial⟩
  obtain ⟨-, hagree⟩ := load_agrees_with_resolveOverrideText document.text
  obtain ⟨document', hdocument', -, hread, hload⟩ := hagree _ hresolved
  obtain rfl : document' = document := Option.some.inj (hdocument'.symm.trans hdocument)
  rw [hmerged] at hread hload
  exact ⟨hresolved, hread.2 (.inr hliteral'), hload (.inr hliteral')⟩

/-! ## A resolved text that cannot be read -/

/-- A document in which an object has `numberKey` as its least key, but not in front. -/
def numberText : String :=
  "\x7b\"x-swagger-override\":\x7b\x7d,\"z\":\x7b\"a\":1,\"$serde_json::private::Number\":\"x\"\x7d\x7d"

/-- What it is resolved to. -/
def resolvedNumberText : String :=
  "\x7b\"z\":\x7b\"$serde_json::private::Number\":\"x\",\"a\":1\x7d\x7d"

/-- The document is loaded, but the text that it is resolved to is not JSON. -/
theorem load_numberText : resolveOverrideText numberText = some resolvedNumberText ∧
    (load numberText).run.value.toOption.isSome ∧
    (loadResolved resolvedNumberText).run.value = .error .notJson := by
  have hread : (parse? resolvedNumberText.toList).isNone := by decide +kernel
  refine ⟨by decide +kernel, by decide +kernel, ?_⟩
  rw [loadResolved, Option.isNone_iff_eq_none.1 hread]
  rfl

end ApiCli.Document

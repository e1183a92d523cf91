import ApiCli.Proofs.Command.Provenance
import ApiCli.Proofs.Command.Registry

/-!
# References between shared parameters

Whether compiling a document misses a reference, when all of its references are to shared
parameters.

* `Document.RefersToShared` says that of a document, `Document.MissesReference` that its
  compilation reports a missing reference.
* `Judged.exists_fault`: every failure of a source is one of its faults.

**References resolve in name order** (`missesReference_iff`): a reference is missed exactly if a
shared parameter outside the body refers to itself or to one of a later name. So the names decide
whether a document compiles.
-/

namespace ApiCli

variable {doc : Document} {env : Environment} {registry : Registry} {accepted sources : List Source}
  {outcomes : List (Except FailureReason Command)} {s : Source} {p : Parameter} {r : String}

namespace Document

/-- The parameters of a document: the shared ones, those of paths and those of operations. -/
def allParameters (doc : Document) : List Parameter :=
  doc.parameters.values ++ doc.paths.values.flatMap fun item =>
    item.parameters ++ item.operations.flatMap fun op => op.2.parameters

def RefersToShared (doc : Document) : Prop :=
  ∀ p ∈ doc.allParameters, ∀ r ∈ p.reference, ∃ name ∈ doc.parameters.keys,
    r = Flag.reference name

instance (doc : Document) : Decidable doc.RefersToShared :=
  inferInstanceAs (Decidable (∀ p ∈ doc.allParameters, ∀ r ∈ p.reference,
    ∃ name ∈ doc.parameters.keys, r = Flag.reference name))

def MissesReference (doc : Document) (baseUrl : String) (env : Environment) : Prop :=
  ∃ e, (compile doc baseUrl env).run.value = .error e ∧
    ∃ f ∈ e.failures, ∃ r, f.reason = .parameter (.missingReference r)

end Document

theorem Source.mem_allParameters_of_declared (h : p ∈ s.declared doc) : p ∈ doc.allParameters := by
  refine List.mem_append_right _ (List.mem_flatMap.2 ?_)
  unfold declared at h
  split at h
  · cases h
  · next item hitem =>
    obtain ⟨path, -, hget⟩ := Option.bind_eq_some_iff.1 hitem
    refine ⟨item, Dict.mem_values_iff.2 ⟨path, hget⟩, ?_⟩
    rcases List.mem_append.1 h with h | h
    · exact List.mem_append_left _ h
    · cases hop : (s.method.bind Method.ofName?).bind item.operation? with
      | none =>
        rw [hop] at h
        cases h
      | some op =>
        rw [hop] at h
        obtain ⟨method, -, hmethod⟩ := Option.bind_eq_some_iff.1 hop
        have hall : method ∈ Method.all := by cases method <;> decide
        have hmem : (method, op) ∈ item.operations :=
          List.mem_filterMap.2 ⟨method, hall, by simp [hmethod]⟩
        exact List.mem_append_right _ (List.mem_flatMap.2 ⟨_, hmem, h⟩)

theorem Source.mem_allParameters_of_parameters {method : Method} {path : String}
    (h : p ∈ parameters doc method path) : p ∈ doc.allParameters := by
  have hdeclared : declared doc ⟨none, some method.lowerName, some path, [], false⟩ =
      parameters doc method path := declared_eq doc rfl (by simp)
  exact mem_allParameters_of_declared (hdeclared ▸ h)

/-- What a parameter stands for is a parameter of the document. -/
theorem Document.StandsFor.mem_allParameters (h : doc.StandsFor p target)
    (hp : p ∈ doc.allParameters) : target ∈ doc.allParameters := by
  induction h with
  | declared => exact hp
  | shared _ hq _ ih => exact ih (List.mem_append_left _ (Dict.mem_values_iff.2 ⟨_, hq⟩))

/-- A source misses a reference only if one of its parameters has it. -/
theorem Source.missing_of_mem_faults
    (h : .parameter (.missingReference r) ∈ s.faults doc registry accepted) :
    ∃ p ∈ s.declared doc, registry.missing? p = some r := by
  have hown : .parameter (.missingReference r) ∈
      ((s.declared doc).filterMap registry.missing?).map fun r =>
        FailureReason.parameter (.missingReference r) := by
    simp only [faults, ownFaults, List.mem_append] at h
    rcases h with ((((h | h) | h) | h) | h) | h
    · split at h <;> simp at h
    · split at h <;> simp at h
    · split at h <;> simp at h
    · simp at h
    · exact h
    · split at h <;> simp at h
  obtain ⟨r', hr', heq⟩ := List.mem_map.1 hown
  cases heq
  exact List.mem_filterMap.1 hr'

theorem Judged.exists_fault (h : Judged doc env registry accepted sources outcomes)
    (hf : f ∈ failuresOf sources outcomes) :
    ∃ s ∈ sources, ∃ accepted, f.reason ∈ s.faults doc registry accepted := by
  induction h with
  | nil => cases hf
  | failed hhead _ ih =>
    rcases List.mem_cons.1 hf with rfl | hf
    · exact ⟨_, List.mem_cons_self, _, List.mem_of_mem_head? hhead⟩
    · obtain ⟨s, hs, hfault⟩ := ih hf
      exact ⟨s, List.mem_cons_of_mem _ hs, hfault⟩
  | compiled _ _ _ ih =>
    obtain ⟨s, hs, hfault⟩ := ih hf
    exact ⟨s, List.mem_cons_of_mem _ hs, hfault⟩

theorem Shares.reason_of_mem {entries : List (String × Parameter)} {failures : List Failure}
    {final : Registry} (h : Shares env registry entries failures final) (hf : f ∈ failures) :
    ∃ r, f.reason = .parameter (.missingReference r) := by
  induction h with
  | nil => cases hf
  | missing _ _ _ ih =>
    rcases List.mem_cons.1 hf with rfl | hf
    · exact ⟨_, rfl⟩
    · exact ih hf
  | held _ _ ih => exact ih hf

/-- Every shared parameter outside the body that is a reference goes to one of an earlier name. -/
def Document.RefersBack (doc : Document) : Prop :=
  ∀ name p other, doc.parameters.get? name = some p → p.location.isBody = false →
    p.reference = some (Flag.reference other) → other < name

theorem reaches_of_refersBack (hshared : doc.RefersToShared) (hback : doc.RefersBack) :
    ∀ e ∈ doc.parameters.entries, e.2.location.isBody = false → ∀ r, e.2.reference = some r →
      Shares.Reaches Registry.empty doc.parameters.entries e.1 r := by
  intro e he hbody r href
  have hget : doc.parameters.get? e.1 = some e.2 := Dict.get?_eq_some_iff.2 he
  have hmem : e.2 ∈ doc.allParameters :=
    List.mem_append_left _ (Dict.mem_values_iff.2 ⟨_, hget⟩)
  obtain ⟨name, hname, rfl⟩ := hshared e.2 hmem r href
  obtain ⟨q, hq⟩ := Dict.mem_keys_iff.1 hname
  exact .inr ⟨(name, q), Dict.get?_eq_some_iff.1 hq, rfl, hback _ _ _ hget hbody href⟩

theorem refersBack_of_reaches (hreaches : ∀ e ∈ doc.parameters.entries,
    e.2.location.isBody = false → ∀ r, e.2.reference = some r →
      Shares.Reaches Registry.empty doc.parameters.entries e.1 r) : doc.RefersBack := by
  intro name p other hget hbody href
  rcases hreaches (name, p) (Dict.get?_eq_some_iff.1 hget) hbody _ href with h | ⟨e, -, heq, hlt⟩
  · cases h
  · exact Flag.reference_injective heq ▸ hlt

/-- When all references are to shared parameters, one is missed exactly if a shared parameter
outside the body refers to itself or to one of a later name. -/
theorem missesReference_iff (hshared : doc.RefersToShared) (baseUrl : String) (env : Environment) :
    doc.MissesReference baseUrl env ↔
      ∃ name p other, doc.parameters.get? name = some p ∧ p.location.isBody = false ∧
        p.reference = some (Flag.reference other) ∧ ¬other < name := by
  have hnot : (∃ name p other, doc.parameters.get? name = some p ∧ p.location.isBody = false ∧
      p.reference = some (Flag.reference other) ∧ ¬other < name) ↔ ¬doc.RefersBack := by
    simp only [Document.RefersBack, not_forall, exists_prop]
  rw [hnot]
  obtain ⟨registry, sharedFailures, outcomes, hshares, hjudged, hvalue⟩ :=
    compile_outcomes doc baseUrl env
  constructor
  · rintro ⟨e, herror, f, hf, r, hr⟩ hback
    obtain ⟨hnil, hheld⟩ := hshares.failures_eq_nil doc.parameters.increase
      (reaches_of_refersBack hshared hback)
    rw [hvalue, hnil, List.nil_append] at herror
    split at herror
    · cases herror
    · cases herror
      obtain ⟨s, -, accepted, hfault⟩ := hjudged.exists_fault hf
      obtain ⟨p, hp, hmissing⟩ := Source.missing_of_mem_faults (hr ▸ hfault)
      obtain ⟨href, hnone⟩ := Option.mem_filter_iff.1 hmissing
      obtain ⟨name, hname, rfl⟩ := hshared p (Source.mem_allParameters_of_declared hp) _ href
      obtain ⟨q, hq⟩ := Dict.mem_keys_iff.1 hname
      have hsome := hheld (name, q) (Dict.get?_eq_some_iff.1 hq)
      rw [Registry.resolve, Option.isNone_iff_eq_none] at hnone
      rw [hnone] at hsome
      cases hsome
  · intro hback
    cases hfailures : sharedFailures with
    | nil =>
      exact absurd (refersBack_of_reaches
        (hshares.held_of_failures_eq_nil doc.parameters.increase hfailures)) hback
    | cons f rest =>
      obtain ⟨r, hr⟩ := hshares.reason_of_mem (hfailures ▸ List.mem_cons_self)
      rw [hfailures, if_neg (by simp)] at hvalue
      exact ⟨_, hvalue, f, List.mem_cons_self, r, hr⟩

/-! ## Two names -/

/-- A query parameter and a reference to it, shared under two names. -/
def sharedUnder (reference declared : String) : Document :=
  { Document.empty with
    parameters := Dict.ofList [
      (reference, { Parameter.empty with reference := some (Flag.reference declared) }),
      (declared, { Parameter.empty with name := "q", location := .query, type := some "string" })] }

/-- A reference from `a` to `b` is missed although it ends at a declared parameter; with the names
exchanged the document compiles. -/
theorem missesReference_iff_names_exchanged :
    (sharedUnder "a" "b").RefersToShared ∧
      (∀ p ∈ (sharedUnder "a" "b").parameters.values,
        ∃ target, (sharedUnder "a" "b").StandsFor p target) ∧
      (sharedUnder "a" "b").MissesReference "http://h" (fun _ => none) ∧
      ¬(sharedUnder "b" "a").MissesReference "http://h" (fun _ => none) ∧
      ((compile (sharedUnder "b" "a") "http://h" fun _ => none).run.value).isOk := by
  have hshared : (sharedUnder "a" "b").RefersToShared := by decide
  refine ⟨hshared, ?_, ?_, ?_, by decide⟩
  · intro p hp
    rcases List.mem_cons.1 hp with rfl | hp
    · exact ⟨_, .shared rfl (by rfl) (.declared rfl)⟩
    · obtain rfl := List.mem_singleton.1 hp
      exact ⟨_, .declared rfl⟩
  · exact (missesReference_iff hshared _ _).2
      ⟨"a", _, "b", by rfl, by decide, by rfl, by decide⟩
  · rintro ⟨e, h, -⟩
    cases h

end ApiCli

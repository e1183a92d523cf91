import ApiCli.Proofs.Command.Registry

/-!
# Inlining references

A reference to a shared parameter can be replaced by the parameter.

* `Parameter.Inlined` says that a parameter is another one or, where that is a reference to a shared
  parameter that is declared in place, the shared parameter.
* `Document.Inlined` says that two documents have the same shared parameters and the same
  operations, with parameters so replaced at any number of places.
* `Parameter.Inlined.ofNode?_eq`: once the shared parameters are in the registry, both compile to
  the same.

**References and inline parameters** (`compile_inlined`): both documents compile to the same
commands and the same registry, or fail in the same way.
-/

namespace ApiCli

inductive Parameter.Inlined (doc : Document) : Parameter → Parameter → Prop
  | same {p : Parameter} : Inlined doc p p
  | shared {p q : Parameter} {name : String} : p.reference = some (Flag.reference name) →
      doc.parameters.get? name = some q → q.reference = none → Inlined doc p q

/-- Only the parameters of the operation may differ, and these by inlining. -/
structure Operation.Inlined (doc : Document) (op op' : Operation) : Prop where
  rest : op' = { op with parameters := op'.parameters }
  parameters : List.Forall₂ (Parameter.Inlined doc) op.parameters op'.parameters

structure PathItem.Inlined (doc : Document) (item item' : PathItem) : Prop where
  parameters : List.Forall₂ (Parameter.Inlined doc) item.parameters item'.parameters
  operation? : ∀ method,
    Option.Rel (Operation.Inlined doc) (item.operation? method) (item'.operation? method)

/-- The second document is the first one with references replaced, at some of their places, by the
shared parameters they refer to. -/
structure Document.Inlined (doc doc' : Document) : Prop where
  parameters : doc'.parameters = doc.parameters
  commands : doc'.commands = doc.commands
  paths : Dict.Related (PathItem.Inlined doc) doc.paths doc'.paths

/-! ## Parameters -/

variable {doc doc' : Document} {env : Environment} {registry : Registry} {p q : Parameter}
  {ps qs : List Parameter}

/-- Every shared parameter that is declared in place is held as its flag. -/
def Registry.HoldsDeclared (doc : Document) (env : Environment) (registry : Registry) : Prop :=
  ∀ name p, doc.parameters.get? name = some p → p.reference = none →
    registry.get? (Flag.reference name) = some (Flag.ofDeclared env p).value

theorem Registry.holdsDeclared_sharedParameters (doc : Document) (env : Environment) :
    HoldsDeclared doc env (sharedParameters env doc.parameters).value.registry :=
  fun _ _ hget hp => (sharedParameters_shares env doc.parameters).get?_of_declared
    doc.parameters.increase (Dict.get?_eq_some_iff.1 hget) hp

namespace Parameter.Inlined

theorem missing?_eq (h : Parameter.Inlined doc p q) (hheld : registry.HoldsDeclared doc env) :
    registry.missing? q = registry.missing? p := by
  cases h with
  | same => rfl
  | shared href hget hq =>
    rw [Registry.missing?_eq_none_iff.2 fun r hr => by simp [hq] at hr,
      Registry.missing?_eq_none_iff.2 fun r hr => ?_]
    rw [href] at hr
    cases hr
    rw [hheld _ _ hget hq]
    rfl

theorem ofNode?_eq (h : Parameter.Inlined doc p q) (hheld : registry.HoldsDeclared doc env) :
    Flag.ofNode? env registry q = Flag.ofNode? env registry p := by
  cases h with
  | same => rfl
  | shared href hget hq =>
    simp only [Flag.ofNode?, hq, href, Registry.resolve, hheld _ _ hget hq, Option.join_some]

theorem insertFlag_eq (h : Parameter.Inlined doc p q) (hheld : registry.HoldsDeclared doc env)
    (flags : Dict Flag) :
    insertFlag env registry flags q = insertFlag env registry flags p := by
  unfold insertFlag
  rw [h.ofNode?_eq hheld]

end Parameter.Inlined

theorem findSome?_missing?_inlined (h : List.Forall₂ (Parameter.Inlined doc) ps qs)
    (hheld : registry.HoldsDeclared doc env) :
    qs.findSome? registry.missing? = ps.findSome? registry.missing? := by
  induction h with
  | nil => rfl
  | cons hp _ ih => rw [List.findSome?_cons, List.findSome?_cons, hp.missing?_eq hheld, ih]

theorem foldl_insertFlag_inlined (h : List.Forall₂ (Parameter.Inlined doc) ps qs)
    (hheld : registry.HoldsDeclared doc env) (flags : Dict Flag) :
    qs.foldl (insertFlag env registry) flags = ps.foldl (insertFlag env registry) flags := by
  induction h generalizing flags with
  | nil => rfl
  | cons hp _ ih => rw [List.foldl_cons, List.foldl_cons, hp.insertFlag_eq hheld, ih]

/-- The flags of a command are the same, or the same reference is missing. -/
theorem compileFlags_inlined (h : List.Forall₂ (Parameter.Inlined doc) ps qs)
    (hheld : registry.HoldsDeclared doc env) :
    (compileFlags env registry qs).run.value = (compileFlags env registry ps).run.value := by
  rw [compileFlags_value, compileFlags_value, findSome?_missing?_inlined h hheld,
    foldl_insertFlag_inlined h hheld]

/-! ## Sources -/

namespace Document.Inlined

theorem operation? (h : doc.Inlined doc') (path : String) (method : Method) :
    Option.Rel (Operation.Inlined doc) ((doc.paths.get? path).bind (·.operation? method))
      ((doc'.paths.get? path).bind (·.operation? method)) := by
  have hitem := h.paths.get? path
  generalize doc.paths.get? path = item, doc'.paths.get? path = item' at hitem
  cases hitem with
  | none => exact .none
  | some hitem => exact hitem.operation? method

theorem parameters_of (h : doc.Inlined doc') (method : Method) (path : String) :
    List.Forall₂ (Parameter.Inlined doc) (Source.parameters doc method path)
      (Source.parameters doc' method path) := by
  have hitem := h.paths.get? path
  unfold Source.parameters
  generalize doc.paths.get? path = item, doc'.paths.get? path = item' at hitem
  cases hitem with
  | none => exact .nil
  | @some item item' hitem =>
    refine List.rel_append hitem.parameters ?_
    have hop := hitem.operation? method
    generalize item.operation? method = op, item'.operation? method = op' at hop
    cases hop with
    | none => exact .nil
    | some hop => exact hop.parameters

theorem sources (h : doc.Inlined doc') : Source.all doc' = Source.all doc := by
  rw [Origin.sources_eq, Origin.sources_eq]
  have hall : Origin.all doc' = Origin.all doc := by
    rw [Origin.all, Origin.all, h.commands, h.paths.keys]
  rw [hall]
  refine List.filterMap_congr fun o _ => ?_
  cases o with
  | entry name => rw [Origin.source?, Origin.source?, h.commands]
  | operation path method =>
    have hop := h.operation? path method
    rw [Origin.source?, Origin.source?]
    generalize (doc.paths.get? path).bind (·.operation? method) = op,
      (doc'.paths.get? path).bind (·.operation? method) = op' at hop
    cases hop with
    | none => rfl
    | some hop => rw [hop.rest]; rfl

theorem command_eq (h : doc.Inlined doc') (s : Source) (name : String) (method : Method)
    (path : String) : s.command doc' name method path = s.command doc name method path := by
  funext flags
  have hop := h.operation? path method
  unfold Source.command
  generalize (doc.paths.get? path).bind (·.operation? method) = op,
    (doc'.paths.get? path).bind (·.operation? method) = op' at hop
  cases hop with
  | none => rfl
  | some hop => rw [hop.rest]; rfl

theorem compile_source (h : doc.Inlined doc') (hheld : registry.HoldsDeclared doc env)
    (s : Source) :
    (s.compile doc' env registry).run.value = (s.compile doc env registry).run.value := by
  simp only [Source.compile_eq_heading, h.command_eq,
    compileFlags_inlined (h.parameters_of _ _) hheld]

end Document.Inlined

/-- A document in which references are replaced by the shared parameters they refer to compiles to
the same. -/
theorem compile_inlined (h : doc.Inlined doc') (baseUrl : String) (env : Environment) :
    (compile doc' baseUrl env).run.value = (compile doc baseUrl env).run.value := by
  have hheld := Registry.holdsDeclared_sharedParameters doc env
  have hadd (p : Progress) (s : Source) :
      (p.add doc' env (sharedParameters env doc.parameters).value.registry s).value =
        (p.add doc env (sharedParameters env doc.parameters).value.registry s).value := by
    rw [Progress.add_value, Progress.add_value, h.compile_source hheld]
  have hshared : (sharedParameters env doc'.parameters).value =
      (sharedParameters env doc.parameters).value := by rw [h.parameters]
  rw [compile_eq doc baseUrl env rfl rfl, compile_eq doc' baseUrl env hshared rfl, h.sources]
  simp only [hadd]

/-! ## A document with references -/

/-- A shared parameter whose flag the environment can supply. -/
def pageParameter : Parameter :=
  { Parameter.empty with
    name := "pageSize", location := .query, type := some "integer", required := true,
    env := some "PAGE" }

/-- A shared parameter in the body, which is no flag. -/
def payloadParameter : Parameter :=
  { Parameter.empty with name := "payload", location := .body, type := some "string" }

/-- A reference to a shared parameter. -/
def Parameter.referTo (name : String) : Parameter :=
  { Parameter.empty with reference := some (Flag.reference name) }

/-- A path with the command `list`. -/
def pagedItem (ofPath ofOperation : List Parameter) : PathItem :=
  { PathItem.empty.setOperation .get
      (some { Operation.empty with command := some "list", parameters := ofOperation }) with
    parameters := ofPath }

/-- A document whose shared parameters apply to the command `list`. -/
def pagedDocument (ofPath ofOperation : List Parameter) : Document :=
  { Document.empty with
    paths := Dict.ofList [("/items", pagedItem ofPath ofOperation)]
    parameters := Dict.ofList [("page", pageParameter), ("payload", payloadParameter)] }

/-- References to a flag and to a parameter in the body are inlined, another reference to the flag
stays. -/
theorem compile_inlined_paged :
    (pagedDocument [.referTo "page", .referTo "payload"] [.referTo "page"]).Inlined
        (pagedDocument [pageParameter, payloadParameter] [.referTo "page"]) ∧
      (compile (pagedDocument [pageParameter, payloadParameter] [.referTo "page"]) "http://h"
          fun _ => some "7").run.value =
        (compile (pagedDocument [.referTo "page", .referTo "payload"] [.referTo "page"]) "http://h"
          fun _ => some "7").run.value ∧
      ∃ set, (compile (pagedDocument [.referTo "page", .referTo "payload"] [.referTo "page"])
          "http://h" fun _ => some "7").run.value = .ok set ∧
        set.commands.map (·.flags.keys) = [["page-size"]] := by
  have hpage : Parameter.Inlined (pagedDocument [.referTo "page", .referTo "payload"]
      [.referTo "page"]) (.referTo "page") pageParameter := .shared rfl (by rfl) rfl
  have hpayload : Parameter.Inlined (pagedDocument [.referTo "page", .referTo "payload"]
      [.referTo "page"]) (.referTo "payload") payloadParameter := .shared rfl (by rfl) rfl
  have hinlined : (pagedDocument [.referTo "page", .referTo "payload"] [.referTo "page"]).Inlined
      (pagedDocument [pageParameter, payloadParameter] [.referTo "page"]) := by
    refine ⟨rfl, rfl, .cons ⟨rfl, .cons hpage (.cons hpayload .nil), fun method => ?_⟩ .nil⟩
    cases method with
    | get => exact .some ⟨rfl, .cons .same .nil⟩
    | _ => exact .none
  exact ⟨hinlined, compile_inlined hinlined _ _, _, rfl, rfl⟩

end ApiCli

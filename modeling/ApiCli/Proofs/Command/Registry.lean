import ApiCli.Proofs.Command.Compilation

/-!
# What the registry holds

The shared parameters are added to the registry in name order, each looked at with the registry
of those before it.

* `Shares.get?_of_notMem`: adding parameters changes what is held under their own names only.
* `Shares.get?_of_declared`: a parameter that is declared in place is held as its flag.
* `Shares.failures_eq_nil`: nothing fails if every reference goes to a parameter that is held
  already or comes earlier.
* `Shares.held_of_failures_eq_nil`: nothing else keeps parameters from failing.
-/

namespace ApiCli

variable {env : Environment} {registry final : Registry} {entries : List (String × Parameter)}
  {failures : List Failure} {name other : String} {p : Parameter}

theorem Flag.reference_injective (h : Flag.reference name = Flag.reference other) :
    name = other :=
  (String.append_right_inj Flag.referencePrefix).1 h

namespace Registry

/-- Only what is held under the name of the parameter changes. -/
theorem get?_add (registry : Registry) (name other : String) (flag : Option Flag) :
    (registry.add name flag).get? (Flag.reference other) =
      if name = other then some flag else registry.get? (Flag.reference other) := by
  rw [Registry.add, Dict.get?_insert]
  by_cases h : name = other
  · rw [if_pos h, if_pos (h ▸ rfl)]
  · rw [if_neg h, if_neg fun heq => h (Flag.reference_injective heq)]

theorem isSome_get?_add (h : (registry.get? (Flag.reference other)).isSome) (name : String)
    (flag : Option Flag) : ((registry.add name flag).get? (Flag.reference other)).isSome := by
  rw [get?_add]
  split
  · rfl
  · exact h

theorem missing?_eq_none_iff : registry.missing? p = none ↔
    ∀ r, p.reference = some r → (registry.get? r).isSome := by
  unfold missing? resolve
  cases p.reference with
  | none => simp
  | some r => simp [Option.filter, Option.isSome_iff_ne_none]

end Registry

/-- A parameter declared in place is held as its flag, whatever is held before it. -/
theorem SharedParameters.held_of_declared (h : p.reference = none) :
    SharedParameters.held env registry p = (Flag.ofDeclared env p).value := by
  unfold SharedParameters.held Flag.ofNode?
  rw [h]
  cases hbody : p.location.isBody with
  | false => rfl
  | true => simp [Flag.ofDeclared, hbody]

namespace Shares

/-- The first name is no later one. -/
theorem notMem_of_increase (hincrease : KeysIncrease ((name, p) :: entries)) :
    name ∉ entries.map (·.1) := by
  intro hmem
  obtain ⟨e, he, rfl⟩ := List.mem_map.1 hmem
  exact String.lt_irrefl _ ((List.pairwise_cons.1 hincrease).1 e he)

theorem get?_of_notMem (h : Shares env registry entries failures final)
    (hname : name ∉ entries.map (·.1)) :
    final.get? (Flag.reference name) = registry.get? (Flag.reference name) := by
  induction h with
  | nil => rfl
  | missing _ _ _ ih => exact ih fun hmem => hname (List.mem_cons_of_mem _ hmem)
  | held _ _ ih =>
    rw [ih fun hmem => hname (List.mem_cons_of_mem _ hmem), Registry.get?_add, if_neg]
    rintro rfl
    exact hname List.mem_cons_self

theorem isSome_get? (h : Shares env registry entries failures final)
    (hname : (registry.get? (Flag.reference name)).isSome) :
    (final.get? (Flag.reference name)).isSome := by
  induction h with
  | nil => exact hname
  | missing _ _ _ ih => exact ih hname
  | held _ _ ih => exact ih (Registry.isSome_get?_add hname _ _)

theorem get?_of_declared (h : Shares env registry entries failures final)
    (hincrease : KeysIncrease entries) (hmem : (name, p) ∈ entries) (hp : p.reference = none) :
    final.get? (Flag.reference name) = some (Flag.ofDeclared env p).value := by
  induction h with
  | nil => cases hmem
  | missing _ hmissing _ ih =>
    rcases List.mem_cons.1 hmem with heq | hmem
    · cases heq
      simp [Registry.missing?, hp] at hmissing
    · exact ih (List.pairwise_cons.1 hincrease).2 hmem
  | held _ hrest ih =>
    rcases List.mem_cons.1 hmem with heq | hmem
    · cases heq
      rw [hrest.get?_of_notMem (notMem_of_increase hincrease), Registry.get?_add, if_pos rfl,
        SharedParameters.held_of_declared hp]
    · exact ih (List.pairwise_cons.1 hincrease).2 hmem

/-- A reference that is held, or goes to an earlier one of the parameters. -/
def Reaches (registry : Registry) (entries : List (String × Parameter)) (name r : String) : Prop :=
  (registry.get? r).isSome ∨ ∃ e ∈ entries, r = Flag.reference e.1 ∧ e.1 < name

theorem failures_eq_nil (h : Shares env registry entries failures final)
    (hincrease : KeysIncrease entries)
    (hreaches : ∀ e ∈ entries, e.2.location.isBody = false → ∀ r, e.2.reference = some r →
      Reaches registry entries e.1 r) :
    failures = [] ∧ ∀ e ∈ entries, (final.get? (Flag.reference e.1)).isSome := by
  induction h with
  | nil => exact ⟨rfl, fun e he => absurd he List.not_mem_nil⟩
  | @missing r registry rest failures final name p hbody hmissing _ _ =>
    -- the first parameter is the least one, so its reference is held
    exfalso
    obtain ⟨href, hnone⟩ := Option.mem_filter_iff.1 hmissing
    rcases hreaches _ List.mem_cons_self hbody r href with hheld | ⟨e, he, -, hlt⟩
    · rw [Registry.resolve] at hnone
      rw [Option.isNone_iff_eq_none.1 hnone] at hheld
      cases hheld
    · rcases List.mem_cons.1 he with rfl | he
      · exact String.lt_irrefl _ hlt
      · exact String.lt_asymm hlt ((List.pairwise_cons.1 hincrease).1 e he)
  | @held rest failures final registry name p _ hrest ih =>
    obtain ⟨hnil, hall⟩ := ih (List.pairwise_cons.1 hincrease).2 fun e he hbody r href => by
      rcases hreaches e (List.mem_cons_of_mem _ he) hbody r href with hheld | ⟨q, hq, rfl, hlt⟩
      · refine .inl ?_
        rw [Registry.add, Dict.get?_insert]
        split
        · rfl
        · exact hheld
      · rcases List.mem_cons.1 hq with rfl | hq
        · exact .inl (by rw [Registry.get?_add, if_pos rfl]; rfl)
        · exact .inr ⟨q, hq, rfl, hlt⟩
    refine ⟨hnil, fun e he => ?_⟩
    rcases List.mem_cons.1 he with rfl | he
    · exact hrest.isSome_get? (by rw [Registry.get?_add, if_pos rfl]; rfl)
    · exact hall e he

theorem held_of_failures_eq_nil (h : Shares env registry entries failures final)
    (hincrease : KeysIncrease entries) (hnil : failures = []) :
    ∀ e ∈ entries, e.2.location.isBody = false → ∀ r, e.2.reference = some r →
      Reaches registry entries e.1 r := by
  induction h with
  | nil => exact fun e he => absurd he List.not_mem_nil
  | missing => exact absurd hnil (List.cons_ne_nil _ _)
  | @held rest failures final registry name p hp _ ih =>
    intro e he hbody r href
    rcases List.mem_cons.1 he with rfl | he
    · have hmissing := hp.resolve_left (by simpa using hbody)
      exact .inl (Registry.missing?_eq_none_iff.1 hmissing r href)
    · have hlt : name < e.1 := (List.pairwise_cons.1 hincrease).1 e he
      rcases ih (List.pairwise_cons.1 hincrease).2 hnil e he hbody r href with
        hheld | ⟨q, hq, hr, hqlt⟩
      · rw [Registry.add, Dict.get?_insert] at hheld
        split at hheld
        · next heq => exact .inr ⟨(name, p), List.mem_cons_self, heq.symm, hlt⟩
        · exact .inl hheld
      · exact .inr ⟨q, List.mem_cons_of_mem _ hq, hr, hqlt⟩

end Shares
end ApiCli

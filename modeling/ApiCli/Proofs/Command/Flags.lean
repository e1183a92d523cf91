import ApiCli.Command.Compile
import ApiCli.Proofs.Dict
import ApiCli.Proofs.Except
import ApiCli.Proofs.Logged

/-!
# Flags of commands

The flags of a command, without the events noted on the way.

* `Flag.ofNode?` is what one parameter compiles to once its reference resolves.
* `compileFlags_value` computes the flags of a list of parameters: they fail with the first
  reference that the registry does not hold, and else `insertFlag` adds one after the other.
-/

namespace ApiCli

namespace Registry

/-- The reference of a parameter, if the registry does not hold it. -/
def missing? (registry : Registry) (p : Parameter) : Option String :=
  p.reference.filter fun r => (registry.resolve r).isNone

end Registry

namespace Flag

/-- The flag of a parameter whose reference, if it has one, the registry holds. -/
def ofNode? (env : Environment) (registry : Registry) (p : Parameter) : Option Flag :=
  match p.reference with
  | some r => (registry.resolve r).join
  | none => (ofDeclared env p).value

theorem ofParameter_value (env : Environment) (registry : Registry) (p : Parameter) :
    (ofParameter env registry p).run.value =
      match registry.missing? p with
      | some r => .error (.missingReference r)
      | none => .ok (ofNode? env registry p) := by
  unfold ofParameter ofNode? Registry.missing?
  cases p.reference with
  | none => rfl
  | some r => cases h : registry.resolve r <;> simp only [h, Option.filter] <;> rfl

end Flag

/-- The flags with the flag of one more parameter. A reserved name is passed over. -/
def insertFlag (env : Environment) (registry : Registry) (flags : Dict Flag) (p : Parameter) :
    Dict Flag :=
  match Flag.ofNode? env registry p with
  | none => flags
  | some flag => if reservedFlags.contains flag.name then flags else flags.insert flag.name flag

theorem addFlag_value (env : Environment) (registry : Registry) (flags : Dict Flag)
    (p : Parameter) :
    (addFlag env registry flags p).run.value =
      match registry.missing? p with
      | some r => .error (.missingReference r)
      | none => .ok (insertFlag env registry flags p) := by
  unfold addFlag insertFlag
  rw [Logged.value_run_bind, Flag.ofParameter_value]
  cases registry.missing? p with
  | some r => rfl
  | none =>
    change (match Flag.ofNode? env registry p with | none => _ | some flag => _ :
      ExceptT ParameterError Logged (Dict Flag)).run.value = _
    cases Flag.ofNode? env registry p with
    | none => rfl
    | some flag => dsimp only; split <;> rfl

/-- Compiling parameters one after the other fails with the first reference that is missing. -/
theorem foldlM_addFlag_value (env : Environment) (registry : Registry) (flags : Dict Flag)
    (ps : List Parameter) :
    (ps.foldlM (addFlag env registry) flags).run.value =
      match ps.findSome? registry.missing? with
      | some r => .error (.missingReference r)
      | none => .ok (ps.foldl (insertFlag env registry) flags) := by
  rw [Logged.value_run_foldlM]
  induction ps generalizing flags with
  | nil => rfl
  | cons p ps ih =>
    rw [List.foldlM_cons, addFlag_value, List.findSome?_cons]
    cases registry.missing? p with
    | some r => rfl
    | none => exact ih _

theorem compileFlags_value (env : Environment) (registry : Registry) (ps : List Parameter) :
    (compileFlags env registry ps).run.value =
      match ps.findSome? registry.missing? with
      | some r => .error (.missingReference r)
      | none => .ok (dedupeShorts (ps.foldl (insertFlag env registry) Dict.empty)).value := by
  unfold compileFlags
  rw [Logged.value_run_bind, foldlM_addFlag_value]
  cases ps.findSome? registry.missing? <;> rfl

theorem keepShort_flag (seen : List Char) (flag : Flag) :
    ∃ short, (keepShort seen flag).2.1 = { flag with short } := by
  unfold keepShort
  split
  · exact ⟨flag.short, rfl⟩
  · split
    · exact ⟨none, rfl⟩
    · exact ⟨flag.short, rfl⟩

/-- Only short aliases change when those that are taken are removed. -/
theorem get?_dedupeShorts {flags : Dict Flag}
    (h : (dedupeShorts flags).value.get? name = some flag) :
    ∃ before short, flags.get? name = some before ∧ flag = { before with short } := by
  rw [dedupeShorts, Dict.get?_map] at h
  obtain ⟨kept, hkept, rfl⟩ := Option.map_eq_some_iff.1 h
  obtain ⟨before, seen, hbefore, rfl⟩ := Dict.get?_scan hkept
  obtain ⟨short, hshort⟩ := keepShort_flag seen before
  exact ⟨before, short, hbefore, hshort⟩

end ApiCli

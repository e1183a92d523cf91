/-!
# Results

When a composed result is a success. The steps of a parser, a compiler or a session are results
put together by `bind`, `map` and `mapError`; these equivalences take them apart again.

`Except.Related R` relates two results that fail alike, or succeed with values that `R` relates.
-/

namespace ApiCli.Except

theorem ok_bind (a : α) (f : α → Except ε β) : (Except.ok a >>= f) = f a := rfl

theorem bind_eq_ok {x : Except ε α} {f : α → Except ε β} {b : β} :
    x >>= f = .ok b ↔ ∃ a, x = .ok a ∧ f a = .ok b := by
  cases x <;> simp [bind, Except.bind]

theorem map_eq_ok {x : Except ε α} {f : α → β} {b : β} :
    x.map f = .ok b ↔ ∃ a, x = .ok a ∧ f a = b := by
  cases x <;> simp [Except.map]

theorem mapError_error (f : ε → ε') (e : ε) :
    (Except.error e : Except ε α).mapError f = .error (f e) := rfl

theorem mapError_ok (f : ε → ε') (a : α) : (Except.ok a).mapError f = .ok a := rfl

theorem mapError_eq_ok {x : Except ε α} {f : ε → ε'} {a : α} :
    x.mapError f = .ok a ↔ x = .ok a := by
  cases x <;> simp [mapError_error, mapError_ok]

/-- A fold succeeds if its steps do, from what the steps keep. -/
theorem exists_foldlM {f : β → α → Except ε β} {P : β → Prop} {l : List α}
    (h : ∀ b a, P b → a ∈ l → ∃ b', f b a = .ok b' ∧ P b') {b : β} (hb : P b) :
    ∃ b', l.foldlM f b = .ok b' ∧ P b' := by
  induction l generalizing b with
  | nil => exact ⟨b, rfl, hb⟩
  | cons a l ih =>
    obtain ⟨b₁, hstep, hb₁⟩ := h b a hb List.mem_cons_self
    obtain ⟨b₂, hrest, hb₂⟩ := ih (fun b a hb ha => h b a hb (List.mem_cons_of_mem _ ha)) hb₁
    refine ⟨b₂, ?_, hb₂⟩
    rw [List.foldlM_cons, hstep, ok_bind, hrest]

/-! ## Related results -/

/-- Both fail with the same error, or both succeed with related values. -/
inductive Related (R : α → β → Prop) : Except ε α → Except ε β → Prop
  | error (e : ε) : Related R (.error e) (.error e)
  | ok : R a b → Related R (.ok a) (.ok b)

namespace Related

variable {R : α → β → Prop}

theorem mapError {x : Except ε α} {y : Except ε β} (h : Related R x y) (f : ε → ε') :
    Related R (x.mapError f) (y.mapError f) := by
  cases h with
  | error e => exact .error (f e)
  | ok hab => exact .ok hab

theorem map {S : γ → δ → Prop} {x : Except ε α} {y : Except ε β} {f : α → γ} {g : β → δ}
    (h : Related R x y) (hfg : ∀ a b, R a b → S (f a) (g b)) :
    Related S (x.map f) (y.map g) := by
  cases h with
  | error e => exact .error e
  | ok hab => exact .ok (hfg _ _ hab)

end Related
end ApiCli.Except

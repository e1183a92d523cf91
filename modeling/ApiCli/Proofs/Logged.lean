import ApiCli.Log

/-!
# Values of logged computations

What a computation that notes events results in. `(·.run.value)` and `(·.value)` commute with
the operations that such computations are put together from.
-/

namespace ApiCli.Logged

theorem value_foldlM (f : β → α → Logged β) (b : β) (l : List α) :
    (l.foldlM f b).value = l.foldl (fun b a => (f b a).value) b := by
  induction l generalizing b with
  | nil => rfl
  | cons a l ih => rw [List.foldlM_cons, value_bind, ih, List.foldl_cons]

theorem value_run_bind (x : ExceptT ε Logged α) (f : α → ExceptT ε Logged β) :
    (x >>= f).run.value = x.run.value >>= fun a => (f a).run.value := by
  change (x.run >>= ExceptT.bindCont f).value = _
  rw [value_bind]
  cases x.run.value <;> rfl

theorem value_run_lift (x : Logged α) :
    (ExceptT.lift x : ExceptT ε Logged α).run.value = .ok x.value := rfl

theorem value_run_adapt (f : ε → ε') (x : ExceptT ε Logged α) :
    (ExceptT.adapt f x).run.value = x.run.value.mapError f := rfl

theorem value_run_foldlM (f : β → α → ExceptT ε Logged β) (b : β) (l : List α) :
    (l.foldlM f b).run.value = l.foldlM (fun b a => (f b a).run.value) b := by
  induction l generalizing b with
  | nil => rfl
  | cons a l ih => simp only [List.foldlM_cons, value_run_bind, ih]

end ApiCli.Logged

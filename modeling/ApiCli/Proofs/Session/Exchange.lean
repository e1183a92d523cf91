import ApiCli.Session
import Mathlib.Data.List.Forall2

/-!
# Exchanges with the remote

What a step of a session does to it, and how the requests of several steps add up.

* `Action.bind_apply` and its companions compute a step at a given session.
* `Local` steps have nothing to do with the remote.
* `Exchange s requests s'` says that between `s` and `s'` exactly `requests` were sent: each of
  them took one reply, and the session was not cancelled before any of them.
* `Attempt due s requests s'` is an exchange of at most one request, which has to be `due`.
* `Follows s due requests s'` is an exchange that sends what is due in turn. It ends early only
  if the session is cancelled or if nothing is due.
-/

namespace ApiCli

/-! ## Steps at a session -/

namespace Action

theorem bind_apply (x : Action ε α) (f : α → Action ε β) (s : Session) :
    (x >>= f) s = match x s with
      | (.ok a, s') => f a s'
      | (.error e, s') => (.error e, s') := by
  change ExceptT.bind x f s = _
  simp only [ExceptT.bind, ExceptT.mk, bind, StateT.bind, ExceptT.bindCont]
  rcases x s with ⟨e | a, s'⟩ <;> rfl

theorem bind_of_ok {x : Action ε α} {s s' : Session} (h : x s = (.ok a, s'))
    (f : α → Action ε β) : (x >>= f) s = f a s' := by
  rw [bind_apply, h]

theorem bind_of_error {x : Action ε α} {s s' : Session} (h : x s = (.error e, s'))
    (f : α → Action ε β) : (x >>= f) s = (.error e, s') := by
  rw [bind_apply, h]

theorem pure_apply (a : α) (s : Session) : (pure a : Action ε α) s = (.ok a, s) := rfl

theorem throw_apply (e : ε) (s : Session) : (throw e : Action ε α) s = (.error e, s) := rfl

theorem adapt_apply (f : ε → ε') (x : Action ε α) (s : Session) :
    (ExceptT.adapt f x : Action ε' α) s = ((x s).1.mapError f, (x s).2) := rfl

theorem lift_apply (x : Action ε α) (s : Session) :
    (ExceptT.lift x.run : Action ε' (Except ε α)) s = (.ok (x s).1, (x s).2) := rfl

theorem discard_apply (x : Action ε α) (s : Session) :
    (discard x : Action ε PUnit) s = ((x s).1.map fun _ => ⟨⟩, (x s).2) := by
  change (x >>= _) s = _
  rw [bind_apply]
  rcases x s with ⟨e | a, s'⟩ <;> rfl

theorem logged_apply (x : ExceptT ε Logged α) (s : Session) :
    Session.logged x s = (x.run.value, { s with log := s.log ++ x.run.log }) := by
  unfold Session.logged
  rw [bind_apply]
  change (MonadExcept.ofExcept x.run.value : Action ε α) _ = _
  cases x.run.value <;> rfl

theorem logged_lift_apply (x : Logged α) (s : Session) :
    (Session.logged (ExceptT.lift x) : Action ε α) s =
      (.ok x.value, { s with log := s.log ++ x.log }) := by
  rw [logged_apply]
  simp [← bind_pure_comp]

end Action

namespace Session

/-- The reply to the request after `i` others. -/
def reply (s : Session) (i : Nat) : Reply := s.replies.getD i .empty

theorem send_of_cancelled {s : Session} (h : s.cancelled = true) (r : Request) :
    send r s = (.error .cancelled, s) := by
  simp [send, h]

theorem send_of_open {s : Session} (h : s.cancelled = false) (r : Request) :
    send r s = ((s.reply 0).outcome, s.afterSend r) := by
  cases hr : s.replies <;> simp [send, h, reply, hr]

/-! ## Steps that leave the remote alone -/

/-- Nothing was sent between `s` and `s'`, and nobody cancelled the session. -/
structure SameRemote (s s' : Session) : Prop where
  sent : s'.sent = s.sent
  replies : s'.replies = s.replies
  cancelled : s'.cancelled = s.cancelled

theorem SameRemote.trans {s s' s'' : Session} (h : SameRemote s s') (h' : SameRemote s' s'') :
    SameRemote s s'' :=
  ⟨h'.sent.trans h.sent, h'.replies.trans h.replies, h'.cancelled.trans h.cancelled⟩

/-- A step that has nothing to do with the remote, however it ends: it does the same whatever
requests, replies and spans there are, and leaves them as they are. -/
def Local (x : Action ε α) : Prop :=
  ∀ s replies cancelled sent spans, x { s with replies, cancelled, sent, spans } =
    ((x s).1, { (x s).2 with replies, cancelled, sent, spans })

namespace Local

theorem pure (a : α) : Local (pure a : Action ε α) := fun _ _ _ _ _ => rfl

theorem throw (e : ε) : Local (throw e : Action ε α) := fun _ _ _ _ _ => rfl

theorem note (e : Event) : Local (note e : Action ε Unit) := fun _ _ _ _ _ => rfl

theorem writeOut (bytes : List UInt8) : Local (writeOut bytes : Action ε Bool) :=
  fun _ _ _ _ _ => rfl

theorem writeErr (bytes : List UInt8) : Local (writeErr bytes : Action ε Bool) :=
  fun _ _ _ _ _ => rfl

theorem bind {x : Action ε α} {f : α → Action ε β} (hx : Local x) (hf : ∀ a, Local (f a)) :
    Local (x >>= f) := by
  intro s replies cancelled sent spans
  rw [Action.bind_apply, Action.bind_apply, hx s]
  rcases x s with ⟨e | a, s'⟩
  · rfl
  · exact hf a s' replies cancelled sent spans

theorem ite {p : Prop} [Decidable p] {x y : Action ε α} (hx : Local x) (hy : Local y) :
    Local (if p then x else y) := by
  split <;> assumption

variable {x : Action ε α}

theorem eq_self (h : Local x) (s : Session) :
    (x s).2 = { (x s).2 with
      replies := s.replies, cancelled := s.cancelled, sent := s.sent, spans := s.spans } :=
  congrArg Prod.snd (h s s.replies s.cancelled s.sent s.spans)

theorem apply_sent (h : Local x) (s : Session) (sent : List Request) :
    x { s with sent } = ((x s).1, { (x s).2 with sent }) := by
  rw [h.eq_self s]
  exact h s s.replies s.cancelled sent s.spans

theorem sameRemote (h : Local x) (s : Session) : SameRemote s (x s).2 where
  sent := by rw [h.eq_self s]
  replies := by rw [h.eq_self s]
  cancelled := by rw [h.eq_self s]

theorem spans_eq (h : Local x) (s : Session) : (x s).2.spans = s.spans := by
  rw [h.eq_self s]

end Local

/-! ## Exchanges -/

/-- Whether the session is cancelled once `n` more requests are sent. -/
def cancelledAfter (s : Session) (n : Nat) : Bool :=
  s.cancelled || (List.range n).any fun i => (s.reply i).cancels

/-- Between `s` and `s'` exactly `requests` were sent, none of them after a cancellation. -/
structure Exchange (s : Session) (requests : List Request) (s' : Session) : Prop where
  sent : s'.sent = s.sent ++ requests
  replies : s'.replies = s.replies.drop requests.length
  cancelled : s'.cancelled = s.cancelledAfter requests.length
  allowed : ∀ i < requests.length, s.cancelledAfter i = false

theorem cancelledAfter_zero (s : Session) : s.cancelledAfter 0 = s.cancelled := by
  simp [cancelledAfter]

theorem Exchange.reply {s s' : Session} (h : Exchange s requests s') (i : Nat) :
    s'.reply i = s.reply (requests.length + i) := by
  simp [Session.reply, h.replies]

theorem Exchange.cancelledAfter {s s' : Session} (h : Exchange s requests s') (n : Nat) :
    s'.cancelledAfter n = s.cancelledAfter (requests.length + n) := by
  simp [Session.cancelledAfter, h.cancelled, h.reply, List.range_add, Bool.or_assoc, List.any_map,
    Function.comp_def]

theorem SameRemote.exchange {s s' : Session} (h : SameRemote s s') : Exchange s [] s' where
  sent := by rw [h.sent, List.append_nil]
  replies := h.replies
  cancelled := by rw [h.cancelled, List.length_nil, cancelledAfter_zero]
  allowed := nofun

namespace Exchange

theorem afterSend {s : Session} (h : s.cancelled = false) (r : Request) :
    Exchange s [r] (s.afterSend r) where
  sent := rfl
  replies := by simp [Session.afterSend]
  cancelled := by
    cases hr : s.replies <;>
      simp [Session.afterSend, Session.cancelledAfter, Session.reply, hr, List.range_succ]
  allowed i hi := by
    obtain rfl : i = 0 := by simpa using hi
    rw [cancelledAfter_zero, h]

theorem trans {s s' s'' : Session} (h : Exchange s rs s') (h' : Exchange s' rs' s'') :
    Exchange s (rs ++ rs') s'' where
  sent := by rw [h'.sent, h.sent, List.append_assoc]
  replies := by rw [h'.replies, h.replies, List.drop_drop, List.length_append]
  cancelled := by rw [h'.cancelled, h.cancelledAfter, List.length_append]
  allowed i hi := by
    rw [List.length_append] at hi
    by_cases hlt : i < rs.length
    · exact h.allowed i hlt
    · obtain ⟨j, rfl⟩ := Nat.exists_eq_add_of_le (Nat.le_of_not_lt hlt)
      rw [← h.cancelledAfter]
      exact h'.allowed j (by omega)

theorem sameRemote {s s' s'' : Session} (h : Exchange s rs s') (h' : SameRemote s' s'') :
    Exchange s rs s'' := by
  simpa using h.trans h'.exchange

end Exchange

/-! ## Requests that are due -/

/-- An exchange of at most one request. Without one, the session is cancelled or no request is
due. -/
inductive Attempt (due : Request → Prop) (s : Session) : List Request → Session → Prop
  | unsent : s.cancelled = true ∨ (¬∃ r, due r) → Exchange s [] s' → Attempt due s [] s'
  | sent : due r → Exchange s [r] s' → Attempt due s [r] s'

theorem Attempt.exchange {s s' : Session} (h : Attempt due s rs s') : Exchange s rs s' := by
  cases h with
  | unsent _ hx => exact hx
  | sent _ hx => exact hx

theorem Attempt.length_le_one {s s' : Session} (h : Attempt due s rs s') : rs.length ≤ 1 := by
  cases h with
  | unsent => exact Nat.zero_le 1
  | sent => exact Nat.le_refl 1

theorem Attempt.sameRemote {s s' s'' : Session} (h : Attempt due s rs s')
    (h' : SameRemote s' s'') : Attempt due s rs s'' := by
  cases h with
  | unsent hd hx => exact .unsent hd (hx.sameRemote h')
  | sent hd hx => exact .sent hd (hx.sameRemote h')

/-- What is due may be restated, if something stays due. -/
theorem Attempt.mono {s s' : Session} {due due' : Request → Prop} (himp : ∀ r, due r → due' r)
    (hexists : (∃ r, due' r) → ∃ r, due r) (h : Attempt due s rs s') : Attempt due' s rs s' := by
  cases h with
  | unsent hd hx => exact .unsent (hd.imp_right (mt hexists)) hx
  | sent hd hx => exact .sent (himp _ hd) hx

/-- The requests of an attempt are due. -/
theorem Attempt.isDue {s s' : Session} {due : Request → Prop} (h : Attempt due s rs s')
    (hsent : s'.sent = s.sent ++ requests) (hr : r ∈ requests) : due r := by
  cases h with
  | unsent _ hx =>
    obtain rfl := List.append_cancel_left (hx.sent.symm.trans hsent)
    cases hr
  | sent hd hx =>
    obtain rfl := List.append_cancel_left (hx.sent.symm.trans hsent)
    obtain rfl := List.mem_singleton.1 hr
    exact hd

/-- What an attempt sends is due. -/
theorem Attempt.exists_sent {s s' : Session} {due p : Request → Prop}
    (h : Attempt due s rs s') (hdue : ∀ r, due r → p r) :
    ∃ requests, s'.sent = s.sent ++ requests ∧ ∀ r ∈ requests, p r := by
  cases h with
  | unsent _ hx => exact ⟨[], hx.sent, List.forall_mem_nil _⟩
  | @sent r _ hr hx => exact ⟨[r], hx.sent, List.forall_mem_singleton.2 (hdue r hr)⟩

/-- The requests sent are due in turn, one after the other. The next one is missing only if the
session is cancelled or no request is due. -/
structure Follows (s : Session) (due : List (Request → Prop)) (requests : List Request)
    (s' : Session) : Prop where
  exchange : Exchange s requests s'
  isDue : List.Forall₂ (fun due r => due r) (due.take requests.length) requests
  stops : ∀ next, due[requests.length]? = some next →
    s.cancelledAfter requests.length = true ∨ ¬∃ r, next r

namespace Follows

/-- Each request of a run was due at some point of it. -/
theorem exists_due {s s' : Session} {due : List (Request → Prop)}
    (h : Follows s due requests s') (hr : r ∈ requests) : ∃ p ∈ due, p r := by
  obtain ⟨hlength, hget⟩ := List.forall₂_iff_get.1 h.isDue
  obtain ⟨i, hi, rfl⟩ := List.getElem_of_mem hr
  have hi' : i < (due.take requests.length).length := Nat.lt_of_lt_of_eq hi hlength.symm
  exact ⟨_, List.mem_of_mem_take (List.get_mem _ ⟨i, hi'⟩), hget i hi' hi⟩

theorem nil {s s' : Session} (hx : Exchange s [] s') : Follows s [] [] s' :=
  ⟨hx, .nil, nofun⟩

theorem stop {s s' : Session} {next : Request → Prop}
    (h : s.cancelled = true ∨ ¬∃ r, next r) (hx : Exchange s [] s') :
    Follows s (next :: due) [] s' := by
  refine ⟨hx, .nil, fun p hp => ?_⟩
  cases hp
  simpa only [List.length_nil, cancelledAfter_zero] using h

theorem cons {s s₁ s' : Session} {next : Request → Prop} (hr : next r)
    (hx : Exchange s [r] s₁) (h : Follows s₁ due rs s') :
    Follows s (next :: due) (r :: rs) s' := by
  refine ⟨hx.trans h.exchange, .cons hr h.isDue, fun p hp => ?_⟩
  have := h.stops p hp
  rwa [hx.cancelledAfter, List.length_singleton, Nat.add_comm] at this

/-- An attempt at the last request that is due. -/
theorem last {s s' : Session} {next : Request → Prop} (h : Attempt next s rs s') :
    Follows s [next] rs s' := by
  cases h with
  | unsent hd hx => exact .stop hd hx
  | sent hd hx => exact .cons hd hx (.nil (SameRemote.exchange ⟨rfl, rfl, rfl⟩))

/-- An attempt after which the next request is not due, if it is sent at all. -/
theorem only {s s' : Session} {next next' : Request → Prop} (h : Attempt next s rs s')
    (hnext : rs ≠ [] → ¬∃ r, next' r) : Follows s (next :: next' :: due) rs s' := by
  cases h with
  | unsent hd hx => exact .stop hd hx
  | sent hd hx =>
    have hstop := hnext (List.cons_ne_nil _ [])
    exact .cons hd hx (.stop (.inr hstop) (SameRemote.exchange ⟨rfl, rfl, rfl⟩))

end Follows
end Session
end ApiCli

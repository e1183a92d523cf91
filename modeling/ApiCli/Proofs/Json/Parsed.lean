import ApiCli.Proofs.Json.Numbers
import ApiCli.Proofs.Json.Reader

/-!
# Numbers of values that are read

The numbers of a value that is read from a text are numerals, so that its own text can be read.

* `LexState.Sound` is the invariant of the lexical automaton: within a number it has read a beginning
  of one.
* `Place.numbers_of_step` is the step of the pushdown automaton: it adds the numbers of a token.

`isNumeral_of_parse?`: the numbers of a value that is read are numerals.
-/

namespace ApiCli.Json

namespace Written

mutual

/-- The texts of the numbers of a value as it is written. -/
def numbers : Written → List (List Char)
  | number text => [text]
  | array items => numbersItems items
  | object members => numbersMembers members
  | null | bool _ | string _ => []

def numbersItems : List Written → List (List Char)
  | [] => []
  | item :: rest => numbers item ++ numbersItems rest

def numbersMembers : List (List Char × Written) → List (List Char)
  | [] => []
  | (_, value) :: rest => numbers value ++ numbersMembers rest

end

theorem numbersItems_eq (items : List Written) : numbersItems items = items.flatMap numbers := by
  induction items with
  | nil => rfl
  | cons item rest ih => rw [numbersItems, ih, List.flatMap_cons]

theorem numbersMembers_eq (members : List (List Char × Written)) :
    numbersMembers members = members.flatMap fun m => numbers m.2 := by
  induction members with
  | nil => rfl
  | cons m rest ih => rw [numbersMembers, ih, List.flatMap_cons]

end Written

def Token.numbers : Token → List (List Char)
  | scalar value => value.numbers
  | _ => []

/-! ## Tokens -/

namespace LexState

variable {c : Char} {tokens : List Token} {s next : LexState}

/-- A number is read as far as it goes, and a literal name stands for no number. -/
def Sound : LexState → Prop
  | name _ value => value.numbers = []
  | number part read => NumberPart.Reads read.reverse part
  | _ => True

/-- The tokens that a character completes have no number, and the state after it is sound. -/
def Quiet (r : List Token × LexState) : Prop := (∀ t ∈ r.1, t.numbers = []) ∧ r.2.Sound

theorem Quiet.of_ite {p : Prop} [Decidable p] {r r' : List Token × LexState}
    {x : Option (List Token × LexState)} (h : (if p then some r else x) = some r')
    (hr : Quiet r) (hx : x = some r' → Quiet r') : Quiet r' := by
  by_cases hp : p
  · rw [if_pos hp] at h
    exact Option.some.inj h ▸ hr
  · rw [if_neg hp] at h
    exact hx h

theorem quiet_enter {r : List Token × LexState} (h : enter c = some r) : Quiet r := by
  unfold enter at h
  -- All tokens but numbers.
  iterate 11 refine Quiet.of_ite h ⟨by simp [Token.numbers], by trivial⟩ fun h => ?_
  obtain ⟨⟨added, part⟩, henter, rfl⟩ := Option.map_eq_some_iff.1 h
  refine ⟨List.forall_mem_nil _, ?_⟩
  rw [Sound, List.reverse_reverse]
  exact (NumberPart.reads_of_enter henter).2

theorem isNumeral_numberToken {part : NumberPart} {read : List Char}
    (hread : NumberPart.Reads read.reverse part) (hfinal : part.final = true) :
    ∀ n ∈ (numberToken read).numbers, IsNumeral n := by
  intro n hn
  obtain rfl := List.mem_singleton.1 hn
  exact ⟨part, hread, hfinal⟩

theorem Sound.step (hs : s.Sound) (h : s.step c = some (tokens, next)) :
    (∀ t ∈ tokens, ∀ n ∈ t.numbers, IsNumeral n) ∧ next.Sound := by
  have hnone {t : Token} (ht : t.numbers = []) : ∀ n ∈ t.numbers, IsNumeral n := by
    rw [ht]
    exact List.forall_mem_nil _
  unfold LexState.step at h
  split at h
  · obtain ⟨htokens, hnext⟩ := quiet_enter h
    exact ⟨fun t ht => hnone (htokens t ht), hnext⟩
  · cases h
  · split at h
    · cases h
      refine ⟨fun t ht => ?_, trivial⟩
      obtain rfl := List.mem_singleton.1 ht
      exact hnone hs
    · cases h
  · split at h
    · cases h
      exact ⟨List.forall_mem_nil _, hs⟩
    · cases h
  · next part read =>
    have hread : NumberPart.Reads read.reverse part := hs
    split at h
    · next added part' hstep =>
      cases h
      refine ⟨List.forall_mem_nil _, ?_⟩
      rw [Sound, List.reverse_append, List.reverse_reverse]
      exact hread.append hstep
    · split at h
      · next hend =>
        obtain ⟨⟨tokens', s'⟩, henter, heq⟩ := Option.map_eq_some_iff.1 h
        cases heq
        obtain ⟨htokens, hnext⟩ := quiet_enter henter
        refine ⟨List.forall_mem_cons.2 ⟨?_, fun t ht => hnone (htokens t ht)⟩, hnext⟩
        exact isNumeral_numberToken hread (Bool.and_eq_true_iff.1 hend).1
      · cases h
  · split_ifs at h
    · cases h
      exact ⟨by simp [Token.numbers, Written.numbers], trivial⟩
    · cases h
      exact ⟨List.forall_mem_nil _, trivial⟩
    · cases h
      exact ⟨List.forall_mem_nil _, trivial⟩
  · split at h
    · cases h
      exact ⟨List.forall_mem_nil _, trivial⟩
    · obtain ⟨-, -, heq⟩ := Option.map_eq_some_iff.1 h
      cases heq
      exact ⟨List.forall_mem_nil _, trivial⟩
  · obtain ⟨-, -, heq⟩ := Option.map_eq_some_iff.1 h
    split at heq <;> cases heq <;> exact ⟨List.forall_mem_nil _, trivial⟩

theorem Sound.run (hs : s.Sound) (text : List Char) :
    ∀ t ∈ (s.run text).1, ∀ n ∈ t.numbers, IsNumeral n := by
  induction text generalizing s with
  | nil =>
    rw [LexState.run]
    cases s with
    | number part read =>
      cases hfinal : part.final with
      | true =>
        rw [finish, hfinal]
        exact List.forall_mem_singleton.2 (isNumeral_numberToken hs hfinal)
      | false =>
        rw [finish, hfinal]
        exact List.forall_mem_nil _
    | _ => exact List.forall_mem_nil _
  | cons c text ih =>
    rw [LexState.run]
    cases hstep : s.step c with
    | none =>
      cases s with
      | number part read =>
        dsimp only [leave]
        split
        · next hend =>
          exact List.forall_mem_singleton.2
            (isNumeral_numberToken hs (Bool.and_eq_true_iff.1 hend).1)
        · exact List.forall_mem_nil _
      | _ => exact List.forall_mem_nil _
    | some r =>
      obtain ⟨tokens, next⟩ := r
      obtain ⟨htokens, hnext⟩ := hs.step hstep
      exact List.forall_mem_append.2 ⟨htokens, ih hnext⟩

end LexState

/-! ## Places -/

def Frame.numbers : Frame → List (List Char)
  | item before => before.flatMap Written.numbers
  | member before _ => before.flatMap fun m => m.2.numbers

namespace Place

variable {n : List Char} {outer : List Frame}

/-- The texts of the numbers in what is complete already. -/
def numbers : Place → List (List Char)
  | needValue outer | firstItem outer | firstKey outer => outer.flatMap Frame.numbers
  | afterItem before outer => before.flatMap Written.numbers ++ outer.flatMap Frame.numbers
  | nextKey before outer | needColon before _ outer | afterMember before outer =>
    (before.flatMap fun m => m.2.numbers) ++ outer.flatMap Frame.numbers
  | complete result => result.numbers

theorem numbers_of_close {value : Written} (h : n ∈ (close value outer).numbers) :
    n ∈ value.numbers ∨ n ∈ outer.flatMap Frame.numbers := by
  unfold close at h
  split at h
  · exact .inl h
  · simpa [numbers, Frame.numbers, or_assoc] using h
  · simpa [numbers, Frame.numbers, or_assoc] using h

theorem numbers_of_enter {t : Token} {next : Place} (h : enter outer t = some next)
    (hn : n ∈ next.numbers) : n ∈ t.numbers ∨ n ∈ outer.flatMap Frame.numbers := by
  unfold enter at h
  split at h
  · cases h
    exact numbers_of_close hn
  · cases h
    exact .inr hn
  · cases h
    exact .inr hn
  · cases h

/-- A step adds the numbers of a token. -/
theorem numbers_of_step {p next : Place} {t : Token} (h : p.step t = some next)
    (hn : n ∈ next.numbers) : n ∈ t.numbers ∨ n ∈ p.numbers := by
  unfold step at h
  split at h
  · exact numbers_of_enter h hn
  · cases h
    exact .inr ((numbers_of_close hn).resolve_left List.not_mem_nil)
  · rcases numbers_of_enter h hn with hn | hn
    · exact .inl hn
    · exact .inr hn
  · cases h
    exact .inr hn
  · cases h
    refine .inr ?_
    rcases numbers_of_close hn with hn | hn
    · exact List.mem_append_left _ (by simpa [Written.numbers, Written.numbersItems_eq] using hn)
    · exact List.mem_append_right _ hn
  · cases h
  · cases h
    exact .inr ((numbers_of_close hn).resolve_left List.not_mem_nil)
  · cases h
    exact .inr hn
  · cases h
  · cases h
    exact .inr hn
  · cases h
  · cases h
    exact .inr hn
  · cases h
  · cases h
    exact .inr hn
  · cases h
    refine .inr ?_
    rcases numbers_of_close hn with hn | hn
    · exact List.mem_append_left _ (by simpa [Written.numbers, Written.numbersMembers_eq] using hn)
    · exact List.mem_append_right _ hn
  · cases h
  · cases h

theorem numbers_of_run {p : Place} {ts : List Token} (hn : n ∈ (p.run ts).1.numbers) :
    n ∈ p.numbers ∨ ∃ t ∈ ts, n ∈ t.numbers := by
  induction ts generalizing p with
  | nil => exact .inl hn
  | cons t ts ih =>
    rw [run] at hn
    cases hstep : p.step t with
    | none =>
      rw [hstep] at hn
      exact .inl hn
    | some next =>
      rw [hstep] at hn
      rcases ih hn with h | ⟨t', ht', h⟩
      · exact (numbers_of_step hstep h).elim (fun h => .inr ⟨t, List.mem_cons_self, h⟩) .inl
      · exact .inr ⟨t', List.mem_cons_of_mem _ ht', h⟩

theorem exists_complete_of_run {p : Place} {ts : List Token} (h : (p.run ts).2 = true) :
    ∃ result, (p.run ts).1 = complete result := by
  induction ts generalizing p with
  | nil =>
    cases p with
    | complete result => exact ⟨result, rfl⟩
    | _ => cases h
  | cons t ts ih =>
    rw [run] at h ⊢
    cases hstep : p.step t with
    | none =>
      rw [hstep] at h
      cases h
    | some next =>
      rw [hstep] at h
      exact ih h

end Place

/-- What is read of a text without a fault has numerals for its numbers. -/
theorem isNumeral_of_read {text n : List Char} {w : Written} (hwhole : (read text).isWhole = true)
    (h : (read text).written? = some w) (hn : n ∈ w.numbers) : IsNumeral n := by
  have hcomplete : ((Place.needValue []).run (lex text).1).2 = true :=
    (Bool.and_eq_true_iff.1 hwhole).2
  obtain ⟨result, hresult⟩ := Place.exists_complete_of_run hcomplete
  have hread : ((Place.needValue []).run (lex text).1).1.outermost? = some w := h
  rw [hresult] at hread
  obtain rfl := Option.some.inj hread
  have hrun : n ∈ ((Place.needValue []).run (lex text).1).1.numbers := hresult ▸ hn
  have hrun := Place.numbers_of_run hrun
  obtain ⟨t, ht, hn⟩ := hrun.resolve_left List.not_mem_nil
  exact LexState.Sound.run (s := .between) trivial text t ht n hn

/-! ## Values -/

theorem isNumeral_of_ofMembers? {members : List (String × Json)} {j : Json}
    (hmembers : ∀ t ∈ numbersMembers members, IsNumeral t.toList)
    (h : ofMembers? members = some j) : ∀ t ∈ j.numbers, IsNumeral t.toList := by
  rcases ofMembers?_cases h with rfl | ⟨text, kept, rfl, hkept, rfl⟩
  · exact hmembers
  · refine List.forall_mem_singleton.2 ?_
    rw [String.toList_ofList]
    exact isNumeral_of_numeral? hkept

namespace Written

mutual

theorem isNumeral_of_valueWithin? : (depth : Nat) → (w : Written) → {j : Json} →
    (∀ n ∈ w.numbers, IsNumeral n) → w.valueWithin? depth = some j →
      ∀ t ∈ j.numbers, IsNumeral t.toList
  | _, null, _, _, h => by
    cases h
    exact List.forall_mem_nil _
  | _, bool b, _, _, h => by
    cases h
    exact List.forall_mem_nil _
  | _, number text, _, hw, h => by
    cases h
    refine List.forall_mem_singleton.2 ?_
    rw [String.toList_ofList]
    exact hw text List.mem_cons_self
  | _, string text, _, _, h => by
    rw [valueWithin?] at h
    obtain ⟨s, -, rfl⟩ := Option.map_eq_some_iff.1 h
    exact List.forall_mem_nil _
  | 0, array items, _, _, h | 0, object members, _, _, h => by
    rw [valueWithin?] at h
    cases h
  | depth + 1, array items, _, hw, h => by
    rw [valueWithin?] at h
    obtain ⟨values, hvalues, rfl⟩ := Option.map_eq_some_iff.1 h
    exact isNumeral_of_itemsWithin? depth items hw hvalues
  | depth + 1, object members, _, hw, h => by
    rw [valueWithin?] at h
    obtain ⟨values, hvalues, h⟩ := Option.bind_eq_some_iff.1 h
    exact isNumeral_of_ofMembers? (isNumeral_of_membersWithin? depth members hw hvalues) h

theorem isNumeral_of_itemsWithin? : (depth : Nat) → (items : List Written) → {values : List Json} →
    (∀ n ∈ numbersItems items, IsNumeral n) → itemsWithin? depth items = some values →
      ∀ t ∈ Json.numbersItems values, IsNumeral t.toList
  | _, [], _, _, h => by
    cases h
    exact List.forall_mem_nil _
  | depth, item :: rest, _, hw, h => by
    obtain ⟨hitem, hrest⟩ := List.forall_mem_append.1 hw
    obtain ⟨value, values, hvalue, hvalues, rfl⟩ := itemsWithin?_cons h
    exact List.forall_mem_append.2 ⟨isNumeral_of_valueWithin? depth item hitem hvalue,
      isNumeral_of_itemsWithin? depth rest hrest hvalues⟩

theorem isNumeral_of_membersWithin? : (depth : Nat) → (members : List (List Char × Written)) →
    {values : List (String × Json)} → (∀ n ∈ numbersMembers members, IsNumeral n) →
      membersWithin? depth members = some values →
        ∀ t ∈ Json.numbersMembers values, IsNumeral t.toList
  | _, [], _, _, h => by
    cases h
    exact List.forall_mem_nil _
  | depth, (key, value) :: rest, _, hw, h => by
    obtain ⟨hvalue, hrest⟩ := List.forall_mem_append.1 hw
    obtain ⟨name, v, values, -, hread, hvalues, rfl⟩ := membersWithin?_cons h
    exact List.forall_mem_append.2 ⟨isNumeral_of_valueWithin? depth value hvalue hread,
      isNumeral_of_membersWithin? depth rest hrest hvalues⟩

end

end Written

/-- The numbers of a value that is read are numerals. -/
theorem isNumeral_of_parse? {text : List Char} {j : Json} (h : parse? text = some j) :
    ∀ t ∈ j.numbers, IsNumeral t.toList := by
  unfold parse? at h
  dsimp only at h
  split at h
  · next hwhole =>
    obtain ⟨value, hvalue, rfl⟩ := Option.map_eq_some_iff.1 h
    obtain ⟨written, hwritten, hvalue⟩ := Option.bind_eq_some_iff.1 hvalue
    intro t ht
    exact Written.isNumeral_of_valueWithin? depthLimit written
      (fun n hn => isNumeral_of_read hwhole hwritten hn) hvalue t
      (mem_numbers_of_canonical value ht)
  · cases h

end ApiCli.Json

import ApiCli.Json.Reader
import ApiCli.Proofs.Json.Token

/-!
# Reading written values

What the pushdown automaton makes of the tokens of a value.

* `Json.asWritten` is a value as it stands in its text.
* `Written.itemsWithin?_cons` and `Written.membersWithin?_cons` say what a row of written values
  that can be read stands for, and `valueWithin?_asWritten_object` what an object is read as.
* `run_tokens`: in a place that needs a value, its tokens close it there.

**Reading** (`read_write`): the text of a value is read as the value, and without a fault.
-/

namespace ApiCli.Json

mutual

/-- A value as it stands in its text. -/
def asWritten : Json → Written
  | null => .null
  | bool b => .bool b
  | number text => .number text.toList
  | string s => .string (s.toList.flatMap escape)
  | array items => .array (asWrittenItems items)
  | object members => .object (asWrittenMembers members)

def asWrittenItems : List Json → List Written
  | [] => []
  | item :: rest => asWritten item :: asWrittenItems rest

def asWrittenMembers : List (String × Json) → List (List Char × Written)
  | [] => []
  | (key, value) :: rest => (key.toList.flatMap escape, asWritten value) :: asWrittenMembers rest

end

namespace Written

variable {depth : Nat}

/-- A row of items stands for values item by item. -/
theorem itemsWithin?_cons {item : Written} {rest : List Written} {values : List Json}
    (h : itemsWithin? depth (item :: rest) = some values) :
    ∃ value values', item.valueWithin? depth = some value ∧
      itemsWithin? depth rest = some values' ∧ values = value :: values' := by
  rw [itemsWithin?] at h
  cases hvalue : item.valueWithin? depth with
  | none => simp [hvalue] at h
  | some value =>
    simp only [hvalue] at h
    obtain ⟨values', hvalues, rfl⟩ := Option.map_eq_some_iff.1 h
    exact ⟨value, values', rfl, hvalues, rfl⟩

/-- A row of members stands for values member by member. -/
theorem membersWithin?_cons {key : List Char} {item : Written} {rest : List (List Char × Written)}
    {values : List (String × Json)}
    (h : membersWithin? depth ((key, item) :: rest) = some values) :
    ∃ name value values', unquote? key = some name ∧ item.valueWithin? depth = some value ∧
      membersWithin? depth rest = some values' ∧ values = (name, value) :: values' := by
  rw [membersWithin?] at h
  split at h
  · next name value hname hvalue =>
    obtain ⟨values', hvalues, rfl⟩ := Option.map_eq_some_iff.1 h
    exact ⟨name, value, values', hname, hvalue, hvalues, rfl⟩
  · cases h

end Written

section

variable {limit : Nat} {key : String} {v value : Json} {rest values : List (String × Json)}

theorem membersWithin?_asWritten_cons (hvalue : v.asWritten.valueWithin? limit = some value)
    (hrest : Written.membersWithin? limit (asWrittenMembers rest) = some values) :
    Written.membersWithin? limit (asWrittenMembers ((key, v) :: rest)) =
      some ((key, value) :: values) := by
  rw [asWrittenMembers, Written.membersWithin?, unquote?_escape, hvalue]
  dsimp only
  rw [hrest, Option.map_some]

/-- An object that has not `numberKey` in front is read member by member. -/
theorem valueWithin?_asWritten_object (hkey : key ≠ numberKey)
    (hvalue : v.asWritten.valueWithin? limit = some value)
    (hrest : Written.membersWithin? limit (asWrittenMembers rest) = some values) :
    (object ((key, v) :: rest)).asWritten.valueWithin? (limit + 1) =
      some (object ((key, value) :: values)) := by
  rw [asWritten, Written.valueWithin?, membersWithin?_asWritten_cons hvalue hrest, Option.bind_some]
  unfold ofMembers?
  exact if_neg hkey

end

namespace Place

variable {rest : List Token} {outer : List Frame}

theorem run_of_step {p next : Place} {t : Token} (h : p.step t = some next) (rest : List Token) :
    p.run (t :: rest) = next.run rest := by
  rw [run, h]

/-- The first token of a value begins an item. -/
theorem run_firstItem (v : Json) (rest : List Token) :
    (firstItem outer).run (v.tokens ++ rest) =
      (needValue (.item [] :: outer)).run (v.tokens ++ rest) := by
  cases v <;> rfl

theorem run_firstItem_cons (item : Json) (items : List Json) (rest : List Token) :
    (firstItem outer).run (tokensItems (item :: items) ++ rest) =
      (needValue (.item [] :: outer)).run (tokensItems (item :: items) ++ rest) := by
  cases items with
  | nil => exact run_firstItem item rest
  | cons next items =>
    rw [tokensItems, List.append_assoc]
    · exact run_firstItem item _
    · exact List.cons_ne_nil next items

theorem run_firstKey_cons (m : String × Json) (members : List (String × Json))
    (rest : List Token) :
    (firstKey outer).run (tokensMembers (m :: members) ++ rest) =
      (nextKey [] outer).run (tokensMembers (m :: members) ++ rest) := by
  cases members <;> rfl

mutual

/-- The tokens of a value close it where a value is needed. -/
theorem run_tokens (outer : List Frame) (rest : List Token) : (v : Json) →
    (needValue outer).run (v.tokens ++ rest) = (close v.asWritten outer).run rest
  | .null | .bool _ | .number _ | .string _ => rfl
  | .array [] | .object [] => rfl
  | .array (item :: items) => by
    rw [tokens, asWritten, List.cons_append, List.append_assoc, run_of_step rfl,
      run_firstItem_cons]
    exact run_tokensItems [] outer rest (item :: items) (List.cons_ne_nil item items)
  | .object (m :: members) => by
    rw [tokens, asWritten, List.cons_append, List.append_assoc, run_of_step rfl,
      run_firstKey_cons]
    exact run_tokensMembers [] outer rest (m :: members) (List.cons_ne_nil m members)

theorem run_tokensItems (before : List Written) (outer : List Frame) (rest : List Token) :
    (items : List Json) → items ≠ [] →
      (needValue (.item before :: outer)).run (tokensItems items ++ .endArray :: rest) =
        (close (.array (before.reverse ++ asWrittenItems items)) outer).run rest
  | [], hne => absurd rfl hne
  | [item], _ => by
    rw [tokensItems, run_tokens, close, run_of_step rfl, List.reverse_cons]
    rfl
  | item :: next :: items, _ => by
    rw [tokensItems, List.append_assoc, List.cons_append, run_tokens, close, run_of_step rfl,
      run_tokensItems (item.asWritten :: before) outer rest (next :: items)
        (List.cons_ne_nil next items), List.reverse_cons, List.append_assoc]
    · rfl
    · exact List.cons_ne_nil next items

theorem run_tokensMembers (before : List (List Char × Written)) (outer : List Frame)
    (rest : List Token) : (members : List (String × Json)) → members ≠ [] →
      (nextKey before outer).run (tokensMembers members ++ .endObject :: rest) =
        (close (.object (before.reverse ++ asWrittenMembers members)) outer).run rest
  | [], hne => absurd rfl hne
  | [(key, value)], _ => by
    rw [tokensMembers, List.cons_append, List.cons_append, run_of_step rfl, run_of_step rfl,
      run_tokens, close, run_of_step rfl, List.reverse_cons]
    rfl
  | (key, value) :: next :: members, _ => by
    rw [tokensMembers, List.cons_append, List.cons_append, List.append_assoc, List.cons_append,
      run_of_step rfl, run_of_step rfl, run_tokens, close, run_of_step rfl,
      run_tokensMembers _ outer rest (next :: members) (List.cons_ne_nil next members),
      List.reverse_cons, List.append_assoc]
    · rfl
    · exact List.cons_ne_nil next members

end

end Place

/-- The text of a value is read as the value. -/
theorem read_write (v : Json) (h : ∀ t ∈ v.numbers, IsNumeral t.toList) :
    read v.write = ⟨some v.asWritten, true⟩ := by
  have hrun := Place.run_tokens [] [] v
  rw [List.append_nil] at hrun
  rw [read, lex_write v h]
  dsimp only
  rw [hrun]
  rfl

theorem toList_text (v : Json) : v.text.toList = v.write := String.toList_ofList

theorem parse?_write (v : Json) (h : ∀ t ∈ v.numbers, IsNumeral t.toList) :
    parse? v.write = v.asWritten.value?.map canonical := by
  rw [parse?, read_write v h]
  rfl

end ApiCli.Json

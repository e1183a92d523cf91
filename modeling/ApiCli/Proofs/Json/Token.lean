import ApiCli.Json.Printer
import ApiCli.Proofs.Json.Numbers
import ApiCli.Proofs.Json.Numeral
import ApiCli.Proofs.Json.Quoted

/-!
# Tokens of written values

What the lexical automaton makes of the text of a value.

* `LexState.emit` puts tokens in front of a result.
* `run_quoted`, `run_isNumeral`: a string and a number are one token each; a number needs a character
  after it that ends it, or the end.
* `Json.tokens` lists the tokens of a value's text.

**Tokens of a value** (`run_write`): the text of a value is read as these tokens.
-/

namespace ApiCli.Json

namespace LexState

variable {c : Char} {rest read text : List Char} {tokens : List Token}
  {s next : LexState}

/-- A result after some tokens. -/
def emit (tokens : List Token) (r : List Token × Bool) : List Token × Bool := (tokens ++ r.1, r.2)

theorem emit_emit (tokens more : List Token) (r : List Token × Bool) :
    emit tokens (emit more r) = emit (tokens ++ more) r := by
  rw [emit, emit, emit, List.append_assoc]

theorem run_of_step (h : s.step c = some (tokens, next)) (rest : List Char) :
    s.run (c :: rest) = emit tokens (next.run rest) := by
  rw [run, h]
  rfl

/-- A character that completes no token. -/
theorem run_of_quiet (h : s.step c = some ([], next)) (rest : List Char) :
    s.run (c :: rest) = next.run rest := run_of_step h rest

/-! ## Strings -/

theorem isSome_hexDigit?_lowerHexDigit : ∀ n < 16,
    (Text.hexDigit? (Text.lowerHexDigit n)).isSome = true := by
  decide

theorem step_unicode (hdigit : (Text.hexDigit? c).isSome = true) (read : List Char) (owed : Nat) :
    (unicode read (owed + 1)).step c = some ([], unicode (c :: read) owed) ∧
      (unicode read 0).step c = some ([], .text (c :: read)) := by
  obtain ⟨n, hn⟩ := Option.isSome_iff_exists.1 hdigit
  constructor
  · rw [step, hn]
    rfl
  · rw [step, hn]
    rfl

/-- An escape between quotes is kept as it is. -/
theorem run_text_escape (c : Char) (read rest : List Char) :
    (LexState.text read).run (Json.escape c ++ rest) =
      (LexState.text ((Json.escape c).reverse ++ read)).run rest := by
  have hescaped := escaped_escape c
  generalize Json.escape c = text at hescaped ⊢
  cases hescaped with
  | @short letter hletter h =>
    have hstep : (escape ('\\' :: read)).step letter = some ([], .text (letter :: '\\' :: read)) := by
      rw [step, if_neg hletter, h]
      rfl
    exact (run_of_quiet rfl _).trans (run_of_quiet hstep _)
  | code h =>
    have hhigh := isSome_hexDigit?_lowerHexDigit (c.toNat / 16) (by omega)
    have hlow := isSome_hexDigit?_lowerHexDigit (c.toNat % 16) (by omega)
    calc (LexState.text read).run _
      _ = (unicode ('u' :: '\\' :: read) 3).run _ :=
        (run_of_quiet rfl _).trans (run_of_quiet rfl _)
      _ = (unicode ('0' :: '0' :: 'u' :: '\\' :: read) 1).run _ :=
        (run_of_quiet rfl _).trans (run_of_quiet rfl _)
      _ = _ := (run_of_quiet (step_unicode hhigh _ _).1 _).trans
        (run_of_quiet (step_unicode hlow _ 0).2 _)
  | plain hquote hbackslash hcontrol =>
    refine run_of_quiet ?_ rest
    rw [step, if_neg hquote, if_neg hbackslash, if_neg hcontrol]
    rfl

theorem run_text_flatMap_escape (s read rest : List Char) :
    (LexState.text read).run (s.flatMap Json.escape ++ rest) =
      (LexState.text ((s.flatMap Json.escape).reverse ++ read)).run rest := by
  induction s generalizing read with
  | nil => rfl
  | cons c s ih =>
    rw [List.flatMap_cons, List.append_assoc, run_text_escape, ih, List.reverse_append,
      List.append_assoc]

theorem run_quoted (s : String) (rest : List Char) :
    between.run (quoted s ++ rest) =
      emit [.scalar (.string (s.toList.flatMap Json.escape))] (between.run rest) := by
  have hquote (text : List Char) : (LexState.text text).step '"' =
      some ([.scalar (.string text.reverse)], between) := rfl
  rw [quoted, List.cons_append, List.append_assoc, run_of_quiet rfl, run_text_flatMap_escape,
    List.append_nil, List.singleton_append, run_of_step (hquote _), List.reverse_reverse]

/-! ## Numbers -/

/-- A number ends before the text: it is at an end, or has a character next that separates values. -/
def EndsNumber (rest : List Char) : Prop := ∀ c ∈ rest.head?, c = ',' ∨ c = ']' ∨ c = '\x7d'

/-- A character that begins a number begins nothing else. -/
theorem enter_of_number (h : NumberPart.enter c = some ([c], part)) :
    enter c = some ([], number part [c]) := by
  have hne : ∀ d, NumberPart.enter d = none → c ≠ d := by
    rintro d hd rfl
    rw [hd] at h
    cases h
  have hblank : isBlank c = false := by
    simp only [isBlank, decide_eq_false_iff_not, not_or]
    exact ⟨hne _ rfl, hne _ rfl, hne _ rfl, hne _ rfl⟩
  unfold enter
  rw [hblank, if_neg Bool.false_ne_true, if_neg (hne _ rfl), if_neg (hne _ rfl),
    if_neg (hne _ rfl), if_neg (hne _ rfl), if_neg (hne _ rfl), if_neg (hne _ rfl),
    if_neg (hne _ rfl), if_neg (hne _ rfl), if_neg (hne _ rfl), if_neg (hne _ rfl), h]
  rfl

theorem run_reads (h : NumberPart.Reads text part) (rest : List Char) :
    between.run (text ++ rest) = (number part text.reverse).run rest := by
  induction h generalizing rest with
  | enter h => exact run_of_quiet (s := between) (enter_of_number h) rest
  | @step text part c next hread h ih =>
    have hstep : (number part text.reverse).step c = some ([], number next (c :: text.reverse)) := by
      rw [step, h]
      rfl
    rw [List.append_assoc, ih, List.singleton_append, run_of_quiet hstep, List.reverse_append]
    rfl

theorem run_isNumeral (h : IsNumeral text) (hend : EndsNumber rest) :
    between.run (text ++ rest) = emit [.scalar (.number text)] (between.run rest) := by
  obtain ⟨part, hread, hfinal⟩ := h
  rw [run_reads hread]
  cases rest with
  | nil =>
    rw [run, finish, if_pos hfinal, numberToken, List.reverse_reverse]
    rfl
  | cons c rest =>
    have hnone : part.step c = none ∧ c.isDigit = false ∧ (enter c).isSome := by
      rcases hend c rfl with rfl | rfl | rfl <;> cases part <;> decide
    obtain ⟨hstep, hdigit, henter⟩ := hnone
    obtain ⟨⟨tokens, s⟩, henter⟩ := Option.isSome_iff_exists.1 henter
    have hnext : (number part text.reverse).step c =
        some (.scalar (.number text) :: tokens, s) := by
      rw [step, hstep]
      simp [hfinal, hdigit, henter, numberToken]
    rw [run_of_step hnext, run_of_step (s := between) henter, emit_emit]
    rfl

end LexState

/-! ## Values -/

mutual

/-- The tokens of the text of a value. -/
def tokens : Json → List Token
  | null => [.scalar .null]
  | bool b => [.scalar (.bool b)]
  | number text => [.scalar (.number text.toList)]
  | string s => [.scalar (.string (s.toList.flatMap escape))]
  | array items => .beginArray :: (tokensItems items ++ [.endArray])
  | object members => .beginObject :: (tokensMembers members ++ [.endObject])

def tokensItems : List Json → List Token
  | [] => []
  | [item] => tokens item
  | item :: rest => tokens item ++ .comma :: tokensItems rest

def tokensMembers : List (String × Json) → List Token
  | [] => []
  | [(key, value)] => .scalar (.string (key.toList.flatMap escape)) :: .colon :: tokens value
  | (key, value) :: rest =>
    .scalar (.string (key.toList.flatMap escape)) :: .colon ::
      (tokens value ++ .comma :: tokensMembers rest)

end

namespace LexState

theorem endsNumber_cons {c : Char} (h : c = ',' ∨ c = ']' ∨ c = '\x7d') (rest : List Char) :
    EndsNumber (c :: rest) := by
  intro d hd
  obtain rfl := Option.some.inj hd
  exact h

theorem run_sign {c : Char} {t : Token} (h : enter c = some ([t], between)) (rest : List Char) :
    between.run (c :: rest) = emit [t] (between.run rest) :=
  run_of_step (s := between) h rest

mutual

/-- The text of a value is read as its tokens. -/
theorem run_write {rest : List Char} (hend : EndsNumber rest) :
    (v : Json) → (∀ t ∈ v.numbers, IsNumeral t.toList) →
      between.run (v.write ++ rest) = emit v.tokens (between.run rest)
  | .null, _ => rfl
  | .bool true, _ => rfl
  | .bool false, _ => rfl
  | .number numeral, h => by
    rw [write, Json.tokens]
    exact run_isNumeral (h numeral List.mem_cons_self) hend
  | .string s, _ => by
    rw [write, Json.tokens]
    exact run_quoted s rest
  | .array items, h => by
    rw [write, Json.tokens, List.cons_append, List.append_assoc, run_sign rfl,
      List.singleton_append, run_writeItems (endsNumber_cons (.inr (.inl rfl)) _) items h,
      run_sign rfl, emit_emit, emit_emit, List.append_assoc]
    rfl
  | .object members, h => by
    rw [write, Json.tokens, List.cons_append, List.append_assoc, run_sign rfl,
      List.singleton_append, run_writeMembers (endsNumber_cons (.inr (.inr rfl)) _) members h,
      run_sign rfl, emit_emit, emit_emit, List.append_assoc]
    rfl

theorem run_writeItems {rest : List Char} (hend : EndsNumber rest) :
    (items : List Json) → (∀ t ∈ numbersItems items, IsNumeral t.toList) →
      between.run (writeItems items ++ rest) = emit (tokensItems items) (between.run rest)
  | [], _ => rfl
  | [item], h => by
    rw [writeItems, tokensItems]
    exact run_write hend item fun t ht => h t (List.mem_append_left _ ht)
  | item :: next :: items, h => by
    rw [writeItems, tokensItems, List.append_assoc, List.cons_append,
      run_write (endsNumber_cons (.inl rfl) _) item fun t ht => h t (List.mem_append_left _ ht),
      run_sign rfl, run_writeItems hend (next :: items) fun t ht => h t (List.mem_append_right _ ht),
      emit_emit, emit_emit, List.append_assoc]
    rfl
    all_goals exact nofun

theorem run_writeMembers {rest : List Char} (hend : EndsNumber rest) :
    (members : List (String × Json)) → (∀ t ∈ numbersMembers members, IsNumeral t.toList) →
      between.run (writeMembers members ++ rest) = emit (tokensMembers members) (between.run rest)
  | [], _ => rfl
  | [(key, value)], h => by
    rw [writeMembers, tokensMembers, List.append_assoc, List.cons_append, run_quoted,
      run_sign rfl, run_write hend value fun t ht => h t (List.mem_append_left _ ht), emit_emit,
      emit_emit]
    rfl
  | (key, value) :: next :: members, h => by
    rw [writeMembers, tokensMembers, List.append_assoc, List.cons_append, List.append_assoc,
      List.cons_append, run_quoted, run_sign rfl,
      run_write (endsNumber_cons (.inl rfl) _) value fun t ht => h t (List.mem_append_left _ ht),
      run_sign rfl,
      run_writeMembers hend (next :: members) fun t ht => h t (List.mem_append_right _ ht),
      emit_emit, emit_emit, emit_emit, emit_emit]
    simp only [List.append_assoc]
    rfl
    all_goals exact nofun

end

end LexState

theorem lex_write (v : Json) (h : ∀ t ∈ v.numbers, IsNumeral t.toList) :
    lex v.write = (v.tokens, true) := by
  have hend : LexState.EndsNumber [] := nofun
  have hrun := LexState.run_write hend v h
  rw [List.append_nil] at hrun
  rw [lex, hrun, LexState.run, LexState.finish, LexState.emit, List.append_nil]

end ApiCli.Json

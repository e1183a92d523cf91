import ApiCli.Document.Load
import ApiCli.Proofs.Document.CommandMap
import ApiCli.Proofs.Document.Override
import ApiCli.Proofs.Json.Regular

/-!
# Malformed extensions

A malformed extension counts as an absent one. Its value is decoded all the same, before its shape
is looked at, and an object that `numberKey` puts in the place of a number need not stand for one.

**Extensions** (`Document.load_leavesOut_iff`): a document is loaded with malformed extensions as it
is without them, if the values of the extensions are readable; with one that is not it is refused.
-/

namespace ApiCli

open Json Decode

namespace Document

theorem tolerates : Tolerates fields empty extensions fun _ _ => True where
  nodup := by decide
  blank_empty _ := trivial
  blank_fill _ _ _ _ := trivial
  malformed := by
    rintro key j ⟨test, htest, -⟩
    cases htest
  within := by
    intro key leavesOut hmem
    simp only [extensions, List.mem_cons, List.not_mem_nil, or_false, Prod.mk.injEq] at hmem
    rcases hmem with ⟨rfl, rfl⟩ | ⟨rfl, rfl⟩ | ⟨rfl, rfl⟩
    · exact exists_mimics_fill rfl fun _ _ _ => mimics_dict fun _ _ _ => PathItem.mimics_decode
    · exact exists_mimics_fill rfl fun _ _ _ => mimics_dict fun _ _ _ => Parameter.mimics_decode
    · exact exists_mimics_fill rfl fun _ _ _ => CommandEntry.mimics_decodeMap

theorem mimics_decode {j j' : Json} {removed : List Json} (hcanonical : j.Canonical)
    (h : LeavesOut j j' removed) : Mimics removed (decode j).result? (decode j').result? :=
  tolerates.mimics_record hcanonical h

/-! ## Loading -/

/-- Both loads give the same document, or both refuse a value that is not shaped like one. -/
def SameOutcome (x y : Except LoadError Document) : Prop :=
  x = y ∨ ∃ cause cause', x = .error (.malformed cause) ∧ y = .error (.malformed cause')

variable {text text' : String} {document document' : Json} {removed : List Json}

theorem member?_overrideKey_of_leavesOut (h : LeavesOut document document' removed)
    (hkey : document.member? overrideKey = none) : document'.member? overrideKey = none := by
  rcases h with ⟨rfl, -⟩ | ⟨members, members', rfl, rfl, hmembers⟩ | ⟨items, items', rfl, rfl, -⟩
  · exact hkey
  · rw [member?, ← Option.not_isSome_iff_eq_none, Dict.isSome_find_iff] at hkey ⊢
    refine mt (hmembers.mem_keys_iff fun v hmalformed => ?_).1 hkey
    obtain ⟨test, htest, -⟩ := hmalformed
    cases htest
  · rfl

theorem load_of_member?_eq_none (h : parse? text.toList = some document)
    (hkey : document.member? overrideKey = none) :
    (load text).run.value = (decode document).run.value.mapError LoadError.malformed := by
  rw [load, h]
  dsimp only
  rw [resolveOverride_of_member?_eq_none hkey, Logged.value_run_adapt]

/-- Malformed extensions of a document without an override. A document is loaded with them as it is
without them, or refused with them as without them, if their values are readable or it is refused in
any case. A document with a malformed extension whose value is not readable is refused. -/
theorem load_leavesOut_iff (h : parse? text.toList = some document)
    (h' : parse? text'.toList = some document') (hkey : document.member? overrideKey = none)
    (hleaves : LeavesOut document document' removed) :
    (SameOutcome (load text).run.value (load text').run.value ↔
      (∀ v ∈ removed, v.Readable) ∨ ∃ cause, (load text').run.value = .error (.malformed cause)) ∧
    ((∃ v ∈ removed, ¬v.Readable) →
      ∃ cause, (load text).run.value = .error (.malformed cause)) := by
  have hmimics := mimics_decode (Regular.of_parse? h).canonical hleaves
  rw [load_of_member?_eq_none h hkey,
    load_of_member?_eq_none h' (member?_overrideKey_of_leavesOut hleaves hkey)]
  unfold result? at hmimics
  generalize (decode document).run.value = x at hmimics ⊢
  generalize (decode document').run.value = y at hmimics ⊢
  by_cases hall : ∀ v ∈ removed, v.Readable
  · have heq := hmimics.eq hall
    refine ⟨iff_of_true ?_ (.inl hall), fun ⟨v, hv, hnot⟩ => absurd (hall v hv) hnot⟩
    cases x with
    | error cause =>
      cases y with
      | error cause' => exact .inr ⟨cause, cause', rfl, rfl⟩
      | ok decoded => cases heq
    | ok decoded =>
      cases y with
      | error cause' => cases heq
      | ok decoded' => exact .inl (congrArg _ (congrArg _ (Option.some.inj heq)))
  · have hnot : ∃ v ∈ removed, ¬v.Readable := by simpa using hall
    have hfails := hmimics.fails hnot
    cases x with
    | ok decoded => cases hfails
    | error cause =>
      refine ⟨?_, fun _ => ⟨cause, rfl⟩⟩
      cases y with
      | error cause' => exact iff_of_true (.inr ⟨cause, cause', rfl, rfl⟩) (.inr ⟨cause', rfl⟩)
      | ok decoded' =>
        refine iff_of_false ?_ ?_
        · rintro (h | ⟨_, _, -, h⟩)
          · cases h
          · cases h
        · rintro (h | ⟨_, h⟩)
          · exact hall h
          · cases h

/-! ## Command names of the wrong shape -/

/-- A document with one operation. -/
def operationDocument (operation : Json) : Json :=
  object [("paths", object [("/a", object [("get", operation)])])]

theorem leavesOut_operationDocument {operation operation' : Json}
    (h : Operation.LeavesOut operation operation' removed) :
    LeavesOut (operationDocument operation) (operationDocument operation') removed := by
  have hget : ("get", Operation.LeavesOut) ∈ PathItem.extensions.within :=
    List.mem_cons_of_mem _ (List.mem_map.2 ⟨.get, by decide, rfl⟩)
  have hitem : PathItem.LeavesOut (object [("get", operation)]) (object [("get", operation')])
      (removed ++ []) := .object (.keep (.of_mem hget h) .nil)
  have hpaths : extensions.Within "paths" (object [("/a", object [("get", operation)])])
      (object [("/a", object [("get", operation')])]) (removed ++ [] ++ []) :=
    .of_mem List.mem_cons_self (.inr ⟨_, _, rfl, rfl, .keep hitem .nil⟩)
  refine .object ?_
  simpa using MembersLeaveOut.keep hpaths .nil

theorem leavesOut_command {command : Json} (h : isOptionalString command = false) :
    LeavesOut (operationDocument (object [("x-swagger-cmd", command)]))
      (operationDocument (object [])) [command] := by
  have hmalformed : Operation.extensions.Malformed "x-swagger-cmd" command :=
    ⟨_, List.mem_cons_self, h⟩
  exact leavesOut_operationDocument (.object (.leave hmalformed .nil))

/-- An operation without a command name. -/
def plainText : String := "\x7b\"paths\":\x7b\"/a\":\x7b\"get\":\x7b\x7d\x7d\x7d\x7d"

/-- The command name is a number. -/
def oddText : String :=
  "\x7b\"paths\":\x7b\"/a\":\x7b\"get\":\x7b\"x-swagger-cmd\":5\x7d\x7d\x7d\x7d"

/-- The command name is an object with `numberKey` as its least key, but not in front. -/
def unreadableText : String :=
  "\x7b\"paths\":\x7b\"/a\":\x7b\"get\":\x7b\"x-swagger-cmd\":" ++
    "\x7b\"a\":1,\"$serde_json::private::Number\":\"x\"\x7d\x7d\x7d\x7d\x7d"

/-- An operation is read from the text of its document as from its own. -/
theorem parse?_operationDocument {operation value : Json}
    (hnumbers : ∀ t ∈ operation.numbers, IsNumeral t.toList)
    (hvalue : operation.asWritten.valueWithin? (depthLimit - 3) = some value) :
    parse? (operationDocument operation).text.toList =
      some (operationDocument value.canonical) := by
  have hread : (operationDocument operation).asWritten.value? = some (operationDocument value) :=
    valueWithin?_asWritten_object (by decide) (valueWithin?_asWritten_object (by decide)
      (valueWithin?_asWritten_object (by decide) hvalue rfl) rfl) rfl
  have hall : ∀ t ∈ (operationDocument operation).numbers, IsNumeral t.toList := by
    simpa [operationDocument, numbers, numbersMembers] using hnumbers
  rw [Json.toList_text, parse?_write _ hall, hread]
  rfl

theorem parse?_plainText :
    parse? plainText.toList = some (operationDocument (object [])) := by
  have htext : (operationDocument (object [])).text = plainText := by decide +kernel
  have hvalue : (object []).asWritten.valueWithin? (depthLimit - 3) = some (object []) := rfl
  rw [← htext]
  exact parse?_operationDocument (List.forall_mem_nil _) hvalue

theorem parse?_oddText : parse? oddText.toList =
    some (operationDocument (object [("x-swagger-cmd", number "5")])) := by
  have htext : (operationDocument (object [("x-swagger-cmd", number "5")])).text = oddText := by
    decide +kernel
  have hnumbers : ∀ t ∈ (object [("x-swagger-cmd", number "5")]).numbers, IsNumeral t.toList :=
    List.forall_mem_singleton.2 (isNumeral_iff.2 (by decide))
  have hvalue : (object [("x-swagger-cmd", number "5")]).asWritten.valueWithin? (depthLimit - 3) =
      some (object [("x-swagger-cmd", number "5")]) :=
    valueWithin?_asWritten_object (by decide) rfl rfl
  rw [← htext]
  exact parse?_operationDocument hnumbers hvalue

/-- The operation of `unreadableText`, with its members as they stand there. -/
def unreadableOperation : Json :=
  object [("x-swagger-cmd", object [("a", number "1"), (numberKey, string "x")])]

/-- The members of the command name are put in order after they are read. -/
theorem parse?_unreadableText : parse? unreadableText.toList =
    some (operationDocument (object [("x-swagger-cmd",
      object [(numberKey, string "x"), ("a", number "1")])])) := by
  have htext : (operationDocument unreadableOperation).text = unreadableText := by decide +kernel
  have hnumbers : ∀ t ∈ unreadableOperation.numbers, IsNumeral t.toList :=
    List.forall_mem_singleton.2 (isNumeral_iff.2 (by decide))
  have hvalue : unreadableOperation.asWritten.valueWithin? (depthLimit - 3) =
      some unreadableOperation :=
    valueWithin?_asWritten_object (by decide) (valueWithin?_asWritten_object (by decide) rfl
      (membersWithin?_asWritten_cons rfl rfl)) rfl
  rw [← htext]
  exact parse?_operationDocument hnumbers hvalue

/-- A number counts as no command name. An object with `numberKey` as its least key is none either,
but the document is refused for it. -/
theorem load_leavesOut_iff_command :
    SameOutcome (load oddText).run.value (load plainText).run.value ∧
      (load plainText).run.value.toOption.isSome ∧
      ∃ cause, (load unreadableText).run.value = .error (.malformed cause) := by
  have hnot : ¬(object [(numberKey, string "x"), ("a", number "1")]).Readable :=
    fun h => absurd h.1 (by decide)
  refine ⟨?_, by decide +kernel, ?_⟩
  · exact (load_leavesOut_iff parse?_oddText parse?_plainText rfl (leavesOut_command rfl)).1.2
      (.inl (List.forall_mem_singleton.2 trivial))
  · exact (load_leavesOut_iff parse?_unreadableText parse?_plainText rfl (leavesOut_command rfl)).2
      ⟨_, List.mem_singleton_self _, hnot⟩

end Document

end ApiCli

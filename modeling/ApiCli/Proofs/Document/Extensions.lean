import ApiCli.Document.Decode
import ApiCli.Proofs.Json.Extensions

/-!
# Extensions of documents

Some fields of parameters, operations and command entries are read leniently. They are the
extensions of a document.

* `Document.LeavesOut` says that a value is another one with some malformed extensions left out,
  wherever they stand in it.
* `tolerates`, one for each kind of record: an extension is filled in from its value alone, and no
  other field fills it in, so that a malformed one changes nothing if its value can be read.
-/

namespace ApiCli

open Json Decode

/-! ## Where extensions stand -/

/-- The shape of an optional string. -/
def isOptionalString (j : Json) : Bool := (asOptionalString? j).isSome

/-- The shape of a list of strings. -/
def isStrings (j : Json) : Bool := (asStrings? j).isSome

/-- The shape of a truth value. -/
def isBool (j : Json) : Bool := (asBool? j).isSome

def Parameter.extensions : Extensions where
  own := [("x-swagger-cmd-short", isOptionalString), ("x-swagger-cmd-env", isOptionalString)]
  within := []

/-- A parameter with some malformed extensions left out. -/
def Parameter.LeavesOut : Json → Json → List Json → Prop :=
  extensions.LeavesOut ((fields reread?).map (·.key))

def Operation.extensions : Extensions where
  own := [("x-swagger-cmd", isOptionalString), ("x-swagger-cmd-alias", isStrings),
    ("x-swagger-cmd-default", isBool)]
  within := [("parameters", ListLeavesOut Parameter.LeavesOut)]

/-- An operation with some malformed extensions left out, of its own and of its parameters. -/
def Operation.LeavesOut : Json → Json → List Json → Prop :=
  extensions.LeavesOut (fields.map (·.key))

def PathItem.extensions : Extensions where
  own := []
  within := ("parameters", ListLeavesOut Parameter.LeavesOut) ::
    Method.all.map fun m => (m.lowerName, Operation.LeavesOut)

/-- What stands under a path, with some malformed extensions left out. -/
def PathItem.LeavesOut : Json → Json → List Json → Prop :=
  extensions.LeavesOut (fields.map (·.key))

def CommandEntry.extensions : Extensions where
  own := [("alias", isStrings), ("default", isBool)]
  within := []

/-- A command entry with some malformed extensions left out. -/
def CommandEntry.LeavesOut : Json → Json → List Json → Prop :=
  extensions.LeavesOut (fields.map (·.key))

def Document.extensions : Extensions where
  own := []
  within := [("paths", DictLeavesOut PathItem.LeavesOut),
    ("parameters", DictLeavesOut Parameter.LeavesOut),
    ("x-swagger-cmds", DictLeavesOut CommandEntry.LeavesOut)]

/-- A document with some malformed extensions left out, wherever they stand. -/
def Document.LeavesOut : Json → Json → List Json → Prop :=
  extensions.LeavesOut (fields.map (·.key))

/-! ## Records with extensions -/

/-- A field that is read leniently, on a value of the wrong shape. -/
theorem result?_fill_lenient {α β : Type} {read? : Json → Option β} {default : β} {r : α} {j : Json}
    (set : β → α) (hread : ∀ {v w}, reread? v = some w → read? w = read? v)
    (hj : (read? j).isSome = false) (hblank : set default = r) :
    (do return set (← lenient reread? read? default j) : Decode α).result? =
      (reread? j).map fun _ => r := by
  rw [result?_bind_pure, result?_lenient, Option.map_map]
  cases hw : reread? j with
  | none => rfl
  | some w =>
    rw [Option.isSome_eq_false_iff, Option.isNone_iff_eq_none] at hj
    simp [hread hw, hj, hblank]

namespace Parameter

/-- The extension `key` of a parameter has the value of an absent one. -/
def Lacks (key : String) (p : Parameter) : Prop :=
  (key = "x-swagger-cmd-short" → p.short = none) ∧ (key = "x-swagger-cmd-env" → p.env = none)

theorem tolerates : Tolerates (fields reread?) empty extensions Lacks where
  nodup := by decide
  blank_empty _ := ⟨fun _ => rfl, fun _ => rfl⟩
  blank_fill {key f r r' j} hf hne hblank h := by
    simp only [fields, List.mem_cons, List.not_mem_nil, or_false] at hf
    rcases hf with rfl | rfl | rfl | rfl | rfl | rfl | rfl | rfl | rfl | rfl
    -- whatever the field, it sets a part of the record of its own
    all_goals
      rw [result?_bind_pure] at h
      obtain ⟨a, -, rfl⟩ := Option.map_eq_some_iff.1 h
      simpa [Lacks, hne] using hblank
  malformed := by
    rintro key j ⟨test, htest, hj⟩
    simp only [extensions, List.mem_cons, List.not_mem_nil, or_false, Prod.mk.injEq] at htest
    rcases htest with ⟨rfl, rfl⟩ | ⟨rfl, rfl⟩
    · refine ⟨_, rfl, fun r hblank => ?_⟩
      have hr : { r with short := none } = r := by rw [← hblank.1 rfl]
      exact result?_fill_lenient _ asOptionalString?_of_reread? hj hr
    · refine ⟨_, rfl, fun r hblank => ?_⟩
      have hr : { r with env := none } = r := by rw [← hblank.2 rfl]
      exact result?_fill_lenient _ asOptionalString?_of_reread? hj hr
  within h := by cases h

/-- Malformed extensions of a parameter make no difference. -/
theorem mimics_decode {j j' : Json} {removed : List Json} (hcanonical : j.Canonical)
    (h : LeavesOut j j' removed) : Mimics removed (decode j).result? (decode j').result? :=
  tolerates.mimics_record hcanonical h

end Parameter

namespace Operation

/-- The extension `key` of an operation has the value of an absent one. -/
def Lacks (key : String) (op : Operation) : Prop :=
  (key = "x-swagger-cmd" → op.command = none) ∧ (key = "x-swagger-cmd-alias" → op.aliases = []) ∧
    (key = "x-swagger-cmd-default" → op.isDefault = false)

theorem tolerates : Tolerates fields empty extensions Lacks where
  nodup := by decide
  blank_empty _ := ⟨fun _ => rfl, fun _ => rfl, fun _ => rfl⟩
  blank_fill {key f r r' j} hf hne hblank h := by
    simp only [fields, List.mem_cons, List.not_mem_nil, or_false] at hf
    rcases hf with rfl | rfl | rfl | rfl | rfl | rfl | rfl
    all_goals
      rw [result?_bind_pure] at h
      obtain ⟨a, -, rfl⟩ := Option.map_eq_some_iff.1 h
      simpa [Lacks, hne] using hblank
  malformed := by
    rintro key j ⟨test, htest, hj⟩
    simp only [extensions, List.mem_cons, List.not_mem_nil, or_false, Prod.mk.injEq] at htest
    rcases htest with ⟨rfl, rfl⟩ | ⟨rfl, rfl⟩ | ⟨rfl, rfl⟩
    · refine ⟨_, rfl, fun r hblank => ?_⟩
      have hr : { r with command := none } = r := by rw [← hblank.1 rfl]
      exact result?_fill_lenient _ asOptionalString?_of_reread? hj hr
    · refine ⟨_, rfl, fun r hblank => ?_⟩
      have hr : { r with aliases := [] } = r := by rw [← hblank.2.1 rfl]
      exact result?_fill_lenient _ asStrings?_of_reread? hj hr
    · refine ⟨_, rfl, fun r hblank => ?_⟩
      have hr : { r with isDefault := false } = r := by rw [← hblank.2.2 rfl]
      exact result?_fill_lenient _ asBool?_of_reread? hj hr
  within := by
    intro key leavesOut hmem
    obtain ⟨rfl, rfl⟩ := Prod.mk.inj (List.mem_singleton.1 hmem)
    exact exists_mimics_fill rfl fun _ _ _ => mimics_list fun _ _ _ => Parameter.mimics_decode

end Operation

namespace PathItem

theorem tolerates : Tolerates fields empty extensions fun _ _ => True where
  nodup := by decide
  blank_empty _ := trivial
  blank_fill _ _ _ _ := trivial
  malformed := by
    rintro key j ⟨test, htest, -⟩
    cases htest
  within := by
    intro key leavesOut hmem
    rcases List.mem_cons.1 hmem with heq | hmem
    · obtain ⟨rfl, rfl⟩ := Prod.mk.inj heq
      exact exists_mimics_fill rfl fun _ _ _ => mimics_list fun _ _ _ => Parameter.mimics_decode
    · obtain ⟨m, -, heq⟩ := List.mem_map.1 hmem
      obtain ⟨rfl, rfl⟩ := Prod.mk.inj heq
      have hfind : fields.find? (fun f => f.key = m.lowerName) =
          some ⟨m.lowerName, false, fun r j =>
            return r.setOperation m (← optional Operation.decode j)⟩ := by
        cases m <;> rfl
      exact exists_mimics_fill hfind fun _ _ _ => Operation.tolerates.mimics_optional

theorem mimics_decode {j j' : Json} {removed : List Json} (hcanonical : j.Canonical)
    (h : LeavesOut j j' removed) : Mimics removed (decode j).result? (decode j').result? :=
  tolerates.mimics_record hcanonical h

end PathItem

namespace CommandEntry

/-- The extension `key` of a command entry has the value of an absent one. -/
def Lacks (key : String) (e : CommandEntry) : Prop :=
  (key = "alias" → e.aliases = []) ∧ (key = "default" → e.isDefault = false)

theorem tolerates : Tolerates fields empty extensions Lacks where
  nodup := by decide
  blank_empty _ := ⟨fun _ => rfl, fun _ => rfl⟩
  blank_fill {key f r r' j} hf hne hblank h := by
    simp only [fields, List.mem_cons, List.not_mem_nil, or_false] at hf
    rcases hf with rfl | rfl | rfl | rfl
    all_goals
      rw [result?_bind_pure] at h
      obtain ⟨a, -, rfl⟩ := Option.map_eq_some_iff.1 h
      simpa [Lacks, hne] using hblank
  malformed := by
    rintro key j ⟨test, htest, hj⟩
    simp only [extensions, List.mem_cons, List.not_mem_nil, or_false, Prod.mk.injEq] at htest
    rcases htest with ⟨rfl, rfl⟩ | ⟨rfl, rfl⟩
    · refine ⟨_, rfl, fun r hblank => ?_⟩
      have hr : { r with aliases := [] } = r := by rw [← hblank.1 rfl]
      exact result?_fill_lenient _ asStrings?_of_reread? hj hr
    · refine ⟨_, rfl, fun r hblank => ?_⟩
      have hr : { r with isDefault := false } = r := by rw [← hblank.2 rfl]
      exact result?_fill_lenient _ asBool?_of_reread? hj hr
  within h := by cases h

end CommandEntry

end ApiCli

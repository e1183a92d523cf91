import ApiCli.Json.Record
import ApiCli.Proofs.Json.Readable
import ApiCli.Proofs.Logged

/-!
# Extensions of records

Some fields of a record are read leniently: a value of the wrong shape counts as absent. These are
its extensions.

* `Decode.result?` is what a decoding step comes to. It is computed step by step.
* `Extensions` says where extensions stand in a record, its own and those of records within it, and
  `Extensions.LeavesOut` that a value is another one with some malformed extensions left out.
* `Mimics removed x y`: a step does what another one does if the values `removed` are readable, and
  fails otherwise.

**Records** (`Tolerates.mimics_record`): a record with malformed extensions is read as the record
without them, if their values are readable.
-/

namespace ApiCli.Json

variable {α β γ : Type}

/-! ## Results of decoding -/

namespace Decode

/-- What a decoding step comes to, if it does not fail. -/
def result? (x : Decode α) : Option α := x.run.value.toOption

@[simp] theorem result?_pure (a : α) : (pure a : Decode α).result? = some a := rfl

@[simp] theorem result?_bind (x : Decode α) (f : α → Decode β) :
    (x >>= f).result? = x.result?.bind fun a => (f a).result? := by
  unfold result?
  rw [Logged.value_run_bind]
  cases x.run.value <;> rfl

@[simp] theorem result?_map (f : α → β) (x : Decode α) : (f <$> x).result? = x.result?.map f := by
  rw [← bind_pure_comp, result?_bind]
  cases x.result? <;> rfl

@[simp] theorem result?_adapt (f : DecodeError → DecodeError) (x : Decode α) :
    Decode.result? (ExceptT.adapt f x) = x.result? := by
  unfold result?
  rw [Logged.value_run_adapt]
  cases x.run.value <;> rfl

/-- A step that fills in what another one comes to. -/
theorem result?_bind_pure (x : Decode α) (f : α → β) :
    (do return f (← x) : Decode β).result? = x.result?.map f := by
  rw [result?_bind]
  cases x.result? <;> rfl

theorem result?_foldlM (f : β → α → Decode β) (b : β) (l : List α) :
    (l.foldlM f b).result? = l.foldlM (fun b a => (f b a).result?) b := by
  induction l generalizing b with
  | nil => rfl
  | cons a l ih => simp only [List.foldlM_cons, result?_bind, ih, Option.bind_eq_bind]

theorem result?_mapM (f : α → Decode β) (l : List α) :
    (l.mapM f).result? = l.mapM fun a => (f a).result? := by
  induction l with
  | nil => rfl
  | cons a l ih =>
    simp only [List.mapM_cons, result?_bind, ih, result?_pure, Option.bind_eq_bind, Option.pure_def]

theorem result?_any (free : Json → Option Json) (j : Json) : (any free j).result? = free j := by
  unfold any
  cases free j <;> rfl

theorem result?_lenient (free : Json → Option Json) (read? : Json → Option α) (default : α)
    (j : Json) :
    (lenient free read? default j).result? = (free j).map fun w => (read? w).getD default := by
  unfold lenient
  rw [result?_bind, result?_any]
  cases free j with
  | none => rfl
  | some w =>
    rw [Option.bind_some, Option.map_some]
    cases read? w <;> rfl

end Decode

/-! ## Steps that differ in what they read -/

/-- The first step comes to what the second comes to if the values `removed` are readable, and fails
otherwise. -/
structure Mimics (removed : List Json) (x y : Option α) : Prop where
  eq : (∀ v ∈ removed, v.Readable) → x = y
  fails : (∃ v ∈ removed, ¬v.Readable) → x = none

namespace Mimics

variable {removed more : List Json} {x y : Option α}

theorem refl (x : Option α) : Mimics [] x x where
  eq _ := rfl
  fails h := by simp at h

theorem bind {f g : α → Option β} (h : Mimics removed x y)
    (hfg : ∀ a, x = some a → Mimics more (f a) (g a)) :
    Mimics (removed ++ more) (x.bind f) (y.bind g) where
  eq hall := by
    obtain ⟨hremoved, hmore⟩ := List.forall_mem_append.1 hall
    rw [← h.eq hremoved]
    cases x with
    | none => rfl
    | some a => exact (hfg a rfl).eq hmore
  fails := by
    rintro ⟨v, hv, hnot⟩
    rcases List.mem_append.1 hv with hv | hv
    · rw [h.fails ⟨v, hv, hnot⟩, Option.bind_none]
    · cases x with
      | none => rfl
      | some a => exact (hfg a rfl).fails ⟨v, hv, hnot⟩

/-- A step that only asks whether a value is readable. -/
theorem singleton (v : Json) (a : α) : Mimics [v] ((reread? v).map fun _ => a) (some a) where
  eq hall := by
    have hv := (isSome_reread?_iff v).2 (hall v List.mem_cons_self)
    obtain ⟨w, hw⟩ := Option.isSome_iff_exists.1 hv
    rw [hw, Option.map_some]
  fails := by
    rintro ⟨_, hv, hnot⟩
    obtain rfl := List.mem_singleton.1 hv
    rw [← isSome_reread?_iff, Option.not_isSome_iff_eq_none] at hnot
    rw [hnot, Option.map_none]

theorem map (f : α → β) (h : Mimics removed x y) : Mimics removed (x.map f) (y.map f) where
  eq hall := by rw [h.eq hall]
  fails hnot := by rw [h.fails hnot, Option.map_none]

end Mimics

/-! ## Values with extensions left out -/

/-- The members of an object with some left out, `removed` their values. `leaves` says which may be
left out, and `nested` what may become of the value of a member that stays. -/
inductive MembersLeaveOut (leaves : String → Json → Prop)
    (nested : String → Json → Json → List Json → Prop) :
    List (String × Json) → List (String × Json) → List Json → Prop
  | nil : MembersLeaveOut leaves nested [] [] []
  | keep : nested key value value' removed → MembersLeaveOut leaves nested rest rest' more →
    MembersLeaveOut leaves nested ((key, value) :: rest) ((key, value') :: rest') (removed ++ more)
  | leave : leaves key value → MembersLeaveOut leaves nested rest rest' more →
    MembersLeaveOut leaves nested ((key, value) :: rest) rest' (value :: more)

/-- The items of an array, with something left out within the first of them. `nested` lists what may
become of the items in turn; the others stay as they are. -/
inductive ItemsLeaveOut : List (Json → Json → List Json → Prop) →
    List Json → List Json → List Json → Prop
  | same : ItemsLeaveOut nested items items []
  | cons : leavesOut item item' removed → ItemsLeaveOut nested items items' more →
    ItemsLeaveOut (leavesOut :: nested) (item :: items) (item' :: items') (removed ++ more)

/-- An array with something left out within its items. -/
def ListLeavesOut (leavesOut : Json → Json → List Json → Prop) (j j' : Json)
    (removed : List Json) : Prop :=
  (j' = j ∧ removed = []) ∨ ∃ items items', j = array items ∧ j' = array items' ∧
    ItemsLeaveOut (List.replicate items.length leavesOut) items items' removed

/-- An object with something left out within the values of its members. -/
def DictLeavesOut (leavesOut : Json → Json → List Json → Prop) (j j' : Json)
    (removed : List Json) : Prop :=
  (j' = j ∧ removed = []) ∨ ∃ members members', j = object members ∧ j' = object members' ∧
    MembersLeaveOut (fun _ _ => False) (fun _ => leavesOut) members members' removed

/-- Where extensions stand in a record. -/
structure Extensions where
  /-- The keys of the record's extensions, each with the test for the shape it asks for. -/
  own : List (String × (Json → Bool))
  /-- The fields that hold records with extensions, each with what may become of its value. -/
  within : List (String × (Json → Json → List Json → Prop))

namespace Extensions

variable (extensions : Extensions)

/-- A value of an extension that has not the shape asked for. -/
def Malformed (key : String) (value : Json) : Prop :=
  ∃ test, (key, test) ∈ extensions.own ∧ test value = false

/-- What may become of the value of a field. -/
def Within (key : String) (j j' : Json) (removed : List Json) : Prop :=
  (j' = j ∧ removed = []) ∨
    ∃ leavesOut, (key, leavesOut) ∈ extensions.within ∧ leavesOut j j' removed

/-- A record with some malformed extensions left out, `removed` their values. The record is written
as an object, or as an array in the order of `keys`. -/
def LeavesOut (keys : List String) (j j' : Json) (removed : List Json) : Prop :=
  (j' = j ∧ removed = []) ∨
    (∃ members members', j = object members ∧ j' = object members' ∧
      MembersLeaveOut extensions.Malformed extensions.Within members members' removed) ∨
    ∃ items items', j = array items ∧ j' = array items' ∧
      ItemsLeaveOut (keys.map extensions.Within) items items' removed

variable {extensions} {keys : List String} {key : String} {j j' : Json} {removed : List Json}
  {members members' : List (String × Json)}

theorem Within.of_mem {leavesOut : Json → Json → List Json → Prop}
    (hmem : (key, leavesOut) ∈ extensions.within) (h : leavesOut j j' removed) :
    extensions.Within key j j' removed := .inr ⟨_, hmem, h⟩

theorem LeavesOut.object
    (h : MembersLeaveOut extensions.Malformed extensions.Within members members' removed) :
    extensions.LeavesOut keys (object members) (object members') removed :=
  .inr (.inl ⟨_, _, rfl, rfl, h⟩)

end Extensions

/-! ## Steps that read what is left -/

section

variable {leaves : String → Json → Prop} {nested : String → Json → Json → List Json → Prop}
  {members members' : List (String × Json)} {removed : List Json} {fields : List (RecordField α)}

theorem canonical_of_mem (h : CanonicalMembers members) {m : String × Json} (hm : m ∈ members) :
    m.2.Canonical :=
  (canonical_iff _).2 (everywhereMembers_iff.1 ((canonicalMembers_iff members).1 h) m hm)

theorem MembersLeaveOut.keysIncrease (h : MembersLeaveOut leaves nested members members' removed)
    (hkeys : KeysIncrease members) : KeysIncrease members' := by
  have hsublist : (members'.map (·.1)).Sublist (members.map (·.1)) := by
    induction h with
    | nil => exact .slnil
    | keep _ _ ih => exact (ih (List.pairwise_cons.1 hkeys).2).cons_cons _
    | leave _ _ ih => exact (ih (List.pairwise_cons.1 hkeys).2).cons _
  exact Dict.keysIncrease_iff.2 ((Dict.keysIncrease_iff.1 hkeys).sublist hsublist)

/-- A key that may not be left out stays. -/
theorem MembersLeaveOut.mem_keys_iff {key : String}
    (h : MembersLeaveOut leaves nested members members' removed) (hkey : ∀ v, ¬leaves key v) :
    key ∈ members'.map (·.1) ↔ key ∈ members.map (·.1) := by
  induction h with
  | nil => exact Iff.rfl
  | keep _ _ ih => rw [List.map_cons, List.map_cons, List.mem_cons, List.mem_cons, ih]
  | @leave other value _ _ _ hleave _ ih =>
    have hne : key ≠ other := by
      rintro rfl
      exact hkey value hleave
    rw [List.map_cons, List.mem_cons, ih, or_iff_right hne]

/-- What the extensions and the fields of a record have to do for records to be read without
malformed extensions as they are read with them. `blank key r` says that the extension `key` of `r`
has the value of an absent one. -/
structure Tolerates (fields : List (RecordField α)) (empty : α) (extensions : Extensions)
    (blank : String → α → Prop) : Prop where
  nodup : (fields.map (·.key)).Nodup
  blank_empty : ∀ key, blank key empty
  blank_fill : ∀ {key f r r' j}, f ∈ fields → key ≠ f.key → blank key r →
    (f.fill r j).result? = some r' → blank key r'
  /-- A malformed extension changes nothing if it can be read. -/
  malformed : ∀ {key j}, extensions.Malformed key j → ∃ f,
    fields.find? (fun f => f.key = key) = some f ∧
      ∀ r, blank key r → (f.fill r j).result? = (reread? j).map fun _ => r
  within : ∀ {key leavesOut}, (key, leavesOut) ∈ extensions.within → ∃ f,
    fields.find? (fun f => f.key = key) = some f ∧ ∀ r j j' removed, j.Canonical →
      leavesOut j j' removed → Mimics removed (f.fill r j).result? (f.fill r j').result?

/-- A field that is filled in with what one step comes to. -/
theorem exists_mimics_fill {key : String} {set : α → β → α} {step : Json → Decode β}
    {required : Bool} {leavesOut : Json → Json → List Json → Prop}
    (hfind : fields.find? (fun f => f.key = key) =
      some ⟨key, required, fun r j => do return set r (← step j)⟩)
    (h : ∀ j j' removed, j.Canonical → leavesOut j j' removed →
      Mimics removed (step j).result? (step j').result?) :
    ∃ f, fields.find? (fun f => f.key = key) = some f ∧ ∀ r j j' removed, j.Canonical →
      leavesOut j j' removed → Mimics removed (f.fill r j).result? (f.fill r j').result? := by
  refine ⟨_, hfind, fun r j j' removed hcanonical hleaves => ?_⟩
  rw [Decode.result?_bind_pure, Decode.result?_bind_pure]
  exact (h j j' removed hcanonical hleaves).map (set r)

theorem find?_key (hnodup : (fields.map (·.key)).Nodup) {f : RecordField α} (hf : f ∈ fields) :
    fields.find? (fun g => g.key = f.key) = some f := by
  induction fields with
  | nil => cases hf
  | cons g fields ih =>
    obtain ⟨hg, hnodup⟩ := List.nodup_cons.1 hnodup
    rcases List.mem_cons.1 hf with rfl | hf
    · rw [List.find?_cons_of_pos (by simp)]
    · have hne : g.key ≠ f.key := fun heq => hg (List.mem_map.2 ⟨f, hf, heq.symm⟩)
      rw [List.find?_cons_of_neg (by simpa using hne), ih hnodup hf]

theorem fromMembers_of_find? {key : String} {value : Json} {f : RecordField α} {seen : List String}
    (hfind : fields.find? (fun f => f.key = key) = some f) (hseen : key ∉ seen) (r : α) :
    (fromMembers fields seen r ((key, value) :: members)).result? =
      (f.fill r value).result?.bind fun r =>
        (fromMembers fields (key :: seen) r members).result? := by
  rw [fromMembers, hfind]
  dsimp only
  rw [if_neg (by simpa using hseen), Decode.result?_bind]

namespace Tolerates

variable {empty : α} {extensions : Extensions} {blank : String → α → Prop}

/-- What is read of a field. -/
theorem mimics_fill (h : Tolerates fields empty extensions blank) {f : RecordField α}
    (hf : f ∈ fields) {j j' : Json} (hwithin : extensions.Within f.key j j' removed)
    (hcanonical : ∀ leavesOut, (f.key, leavesOut) ∈ extensions.within → j.Canonical) (r : α) :
    Mimics removed (f.fill r j).result? (f.fill r j').result? := by
  rcases hwithin with ⟨rfl, rfl⟩ | ⟨leavesOut, hmem, hleaves⟩
  · exact .refl _
  · obtain ⟨g, hg, hmimics⟩ := h.within hmem
    obtain rfl := Option.some.inj ((find?_key h.nodup hf).symm.trans hg)
    exact hmimics r j j' removed (hcanonical _ hmem) hleaves

/-- The induction is on what is left out. The keys `seen` are those of the members before; as no key
occurs twice, an extension that is left out has its blank value. -/
theorem mimics_fromMembers (h : Tolerates fields empty extensions blank)
    (hmembers : MembersLeaveOut extensions.Malformed extensions.Within members members' removed)
    (hkeys : (members.map (·.1)).Nodup)
    (hcanonical : ∀ m ∈ members, ∀ leavesOut, (m.1, leavesOut) ∈ extensions.within → m.2.Canonical)
    {seen seen' : List String} (hseen : ∀ m ∈ members, m.1 ∉ seen ∧ m.1 ∉ seen') {r : α}
    (hblank : ∀ key ∉ seen, blank key r) :
    Mimics removed (fromMembers fields seen r members).result?
      (fromMembers fields seen' r members').result? := by
  induction hmembers generalizing seen seen' r with
  | nil => exact .refl _
  | @keep key value value' removed rest rest' more hwithin _ ih =>
    obtain ⟨hkey, hrestKeys⟩ := List.nodup_cons.1 hkeys
    obtain ⟨hvalue, hrestCanonical⟩ := List.forall_mem_cons.1 hcanonical
    obtain ⟨⟨hfresh, hfresh'⟩, hrestSeen⟩ := List.forall_mem_cons.1 hseen
    cases hfind : fields.find? fun f => f.key = key with
    | some f =>
      have hf := List.mem_of_find?_eq_some hfind
      obtain rfl : f.key = key := by simpa using List.find?_some hfind
      rw [fromMembers_of_find? hfind hfresh, fromMembers_of_find? hfind hfresh']
      refine (h.mimics_fill hf hwithin hvalue r).bind fun r' hr' => ?_
      refine ih hrestKeys hrestCanonical (fun m hm => ?_) fun key hother => ?_
      · have hne : m.1 ≠ f.key := fun heq => hkey (List.mem_map.2 ⟨m, hm, heq⟩)
        simpa [hne] using hrestSeen m hm
      · rw [List.mem_cons, not_or] at hother
        exact h.blank_fill hf hother.1 (hblank key hother.2) hr'
    | none =>
      -- a member without a field is passed over
      rcases hwithin with ⟨rfl, rfl⟩ | ⟨leavesOut, hmem, -⟩
      · rw [fromMembers, fromMembers, hfind]
        exact ih hrestKeys hrestCanonical hrestSeen hblank
      · obtain ⟨f, hfield, -⟩ := h.within hmem
        cases hfind.symm.trans hfield
  | @leave key value rest rest' more hmalformed _ ih =>
    obtain ⟨hkey, hrestKeys⟩ := List.nodup_cons.1 hkeys
    obtain ⟨-, hrestCanonical⟩ := List.forall_mem_cons.1 hcanonical
    obtain ⟨⟨hfresh, -⟩, hrestSeen⟩ := List.forall_mem_cons.1 hseen
    obtain ⟨f, hfind, hfill⟩ := h.malformed hmalformed
    rw [fromMembers_of_find? hfind hfresh, hfill r (hblank key hfresh)]
    refine (Mimics.singleton value r).bind
      (g := fun r => (fromMembers fields seen' r rest').result?) fun r' hr' => ?_
    obtain ⟨w, -, rfl⟩ := Option.map_eq_some_iff.1 hr'
    refine ih hrestKeys hrestCanonical (fun m hm => ?_) fun key hother => ?_
    · have hne : m.1 ≠ key := fun heq => hkey (List.mem_map.2 ⟨m, hm, heq⟩)
      simpa [hne] using hrestSeen m hm
    · exact hblank key fun hmem => hother (List.mem_cons_of_mem _ hmem)

theorem mimics_fromItems (h : Tolerates fields empty extensions blank)
    {rest : List (RecordField α)} (hrest : rest ⊆ fields) {items items' : List Json}
    (hitems : ItemsLeaveOut (rest.map fun f => extensions.Within f.key) items items' removed)
    (hcanonical : CanonicalItems items) (r : α) :
    Mimics removed (fromItems r rest items).result? (fromItems r rest items').result? := by
  induction rest generalizing items items' removed r with
  | nil =>
    cases hitems
    exact .refl _
  | cons f rest ih =>
    obtain ⟨hf, hrest⟩ := List.cons_subset.1 hrest
    cases hitems with
    | same => exact .refl _
    | @cons _ item item' _ _ items items' _ hitem hitems =>
      rw [fromItems, fromItems, Decode.result?_bind, Decode.result?_bind]
      exact (h.mimics_fill hf hitem (fun _ _ => hcanonical.1) r).bind fun r' _ =>
        ih hrest hitems hcanonical.2 r'

/-- A record that tolerates its extensions is read without malformed ones as with them. -/
theorem mimics_record (h : Tolerates fields empty extensions blank) {j j' : Json}
    (hcanonical : j.Canonical)
    (hleaves : extensions.LeavesOut (fields.map (·.key)) j j' removed) :
    Mimics removed (record fields empty j).result? (record fields empty j').result? := by
  rcases hleaves with ⟨rfl, rfl⟩ | ⟨members, members', rfl, rfl, hmembers⟩ |
    ⟨items, items', rfl, rfl, hitems⟩
  · exact .refl _
  · refine h.mimics_fromMembers hmembers ?_ (fun m hm _ _ => ?_) (fun m _ => ?_)
      fun key _ => h.blank_empty key
    · exact (Dict.mk members hcanonical.1).nodup_keys
    · exact canonical_of_mem hcanonical.2 hm
    · exact ⟨List.not_mem_nil, List.not_mem_nil⟩
  · rw [List.map_map] at hitems
    exact h.mimics_fromItems (List.Subset.refl _) hitems hcanonical empty

theorem mimics_optional (h : Tolerates fields empty extensions blank) {j j' : Json}
    (hcanonical : j.Canonical)
    (hleaves : extensions.LeavesOut (fields.map (·.key)) j j' removed) :
    Mimics removed (Decode.optional (record fields empty) j).result?
      (Decode.optional (record fields empty) j').result? := by
  have hmimics := (h.mimics_record hcanonical hleaves).map some
  rw [← Decode.result?_map, ← Decode.result?_map] at hmimics
  rcases hleaves with ⟨rfl, rfl⟩ | ⟨members, members', rfl, rfl, -⟩ | ⟨items, items', rfl, rfl, -⟩
  · exact .refl _
  · exact hmimics
  · exact hmimics

end Tolerates

/-! ## Lists and dictionaries -/

section

variable {leavesOut : Json → Json → List Json → Prop} {decode : Json → Decode β} {j j' : Json}
  (h : ∀ j j' removed, j.Canonical → leavesOut j j' removed →
    Mimics removed (decode j).result? (decode j').result?)
include h

theorem mimics_mapM {items items' : List Json} (hcanonical : CanonicalItems items)
    (hitems : ItemsLeaveOut (List.replicate items.length leavesOut) items items' removed) :
    Mimics removed (items.mapM fun j => (decode j).result?)
      (items'.mapM fun j => (decode j).result?) := by
  induction items generalizing items' removed with
  | nil =>
    cases hitems
    exact .refl _
  | cons item items ih =>
    rw [List.length_cons, List.replicate_succ] at hitems
    cases hitems with
    | same => exact .refl _
    | cons hitem hitems =>
      simp only [List.mapM_cons, bind_pure_comp, Option.map_eq_map, Option.bind_eq_bind]
      exact (h _ _ _ hcanonical.1 hitem).bind fun b _ => (ih hcanonical.2 hitems).map (b :: ·)

theorem mimics_list (hcanonical : j.Canonical) (hleaves : ListLeavesOut leavesOut j j' removed) :
    Mimics removed (Decode.list decode j).result? (Decode.list decode j').result? := by
  rcases hleaves with ⟨rfl, rfl⟩ | ⟨items, items', rfl, rfl, hitems⟩
  · exact .refl _
  · change Mimics removed (items.mapM decode).result? (items'.mapM decode).result?
    rw [Decode.result?_mapM, Decode.result?_mapM]
    exact mimics_mapM h hcanonical hitems

end

/-- Members whose values are read one by one into a dictionary. -/
theorem mimics_foldlM {leavesOut : Json → Json → List Json → Prop} (f : String → Json → Option γ)
    (put : Dict β → String → γ → Dict β)
    (h : ∀ m ∈ members, ∀ j' removed, leavesOut m.2 j' removed →
      Mimics removed (f m.1 m.2) (f m.1 j'))
    (hmembers : MembersLeaveOut (fun _ _ => False) (fun _ => leavesOut) members members' removed)
    (d : Dict β) :
    Mimics removed (members.foldlM (fun d m => (f m.1 m.2).map (put d m.1)) d)
      (members'.foldlM (fun d m => (f m.1 m.2).map (put d m.1)) d) := by
  induction hmembers generalizing d with
  | nil => exact .refl _
  | keep hvalue _ ih =>
    obtain ⟨hfirst, hrest⟩ := List.forall_mem_cons.1 h
    rw [List.foldlM_cons, List.foldlM_cons]
    exact ((hfirst _ _ hvalue).map _).bind fun d' _ => ih hrest d'
  | leave hnever => exact hnever.elim

theorem mimics_dict {leavesOut : Json → Json → List Json → Prop} {decode : Json → Decode β}
    {j j' : Json}
    (h : ∀ j j' removed, j.Canonical → leavesOut j j' removed →
      Mimics removed (decode j).result? (decode j').result?)
    (hcanonical : j.Canonical) (hleaves : DictLeavesOut leavesOut j j' removed) :
    Mimics removed (Decode.dict decode j).result? (Decode.dict decode j').result? := by
  rcases hleaves with ⟨rfl, rfl⟩ | ⟨members, members', rfl, rfl, hmembers⟩
  · exact .refl _
  · have hdict (members : List (String × Json)) :
        (Decode.dict decode (object members)).result? = members.foldlM
          (fun d m => ((decode m.2).result?).map (d.insert m.1)) Dict.empty := by
      change (members.foldlM _ Dict.empty : Decode (Dict β)).result? = _
      rw [Decode.result?_foldlM]
      congr 1
      funext d m
      rw [Decode.result?_bind]
      cases (decode m.2).result? <;> rfl
    rw [hdict, hdict]
    exact mimics_foldlM (fun _ j => (decode j).result?) Dict.insert
      (fun m hm j' removed hleaves => h _ _ _ (canonical_of_mem hcanonical.2 hm) hleaves) hmembers _

end

end ApiCli.Json

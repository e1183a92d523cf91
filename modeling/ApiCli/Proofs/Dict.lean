import Mathlib.Data.List.Forall2
import ApiCli.Dict

/-!
# Entries of dictionaries

Looking a key up, and membership of the entries, keys and values, say the same. The keys of a
dictionary are distinct, so an invariant of all its entries survives an insertion.

`find_insertEntry_of_none` and `isSome_find_iff` are about entries in any order.

`Related R d e` says that two dictionaries have the same keys, and values that `R` relates;
`RelatedAt` lets the relation depend on the key.
-/

namespace ApiCli.Dict

instance (entries : List (String × α)) : Decidable (KeysIncrease entries) :=
  inferInstanceAs (Decidable (entries.Pairwise _))

theorem find_eq_some_iff {key : String} {value : α} {entries : List (String × α)}
    (h : KeysIncrease entries) : find key entries = some value ↔ (key, value) ∈ entries := by
  induction entries with
  | nil => simp [find]
  | cons e rest ih =>
    obtain ⟨k, v⟩ := e
    obtain ⟨hk, hrest⟩ := List.pairwise_cons.1 h
    rw [find, List.mem_cons]
    split
    · next heq =>
      subst heq
      have hnot : (k, value) ∉ rest := fun hm => String.lt_irrefl k (hk _ hm)
      simp [hnot, eq_comm]
    · next hne =>
      rw [ih hrest]
      simp [Ne.symm hne]

variable {d : Dict α} {key : String} {value : α}

theorem get?_eq_some_iff : d.get? key = some value ↔ (key, value) ∈ d.entries :=
  find_eq_some_iff d.increase

theorem mem_keys_iff : key ∈ d.keys ↔ ∃ value, d.get? key = some value := by
  simp [keys, get?_eq_some_iff]

theorem mem_values_iff : value ∈ d.values ↔ ∃ key, d.get? key = some value := by
  simp [values, get?_eq_some_iff]

theorem nodup_keys (d : Dict α) : d.keys.Nodup := by
  have increase : d.keys.Pairwise (· < ·) := keysIncrease_iff.1 d.increase
  refine increase.imp fun hlt heq => ?_
  subst heq
  exact String.lt_irrefl _ hlt

/-- Only one entry has a key. -/
theorem filter_eq_of_get? (h : d.get? key = some value) :
    (d.entries.filter fun e => e.1 = key) = [(key, value)] := by
  have (entries : List (String × α)) (hincrease : KeysIncrease entries)
      (hfind : find key entries = some value) :
      (entries.filter fun e => e.1 = key) = [(key, value)] := by
    induction entries with
    | nil => cases hfind
    | cons e rest ih =>
      obtain ⟨k, v⟩ := e
      obtain ⟨hk, hrest⟩ := List.pairwise_cons.1 hincrease
      rw [find] at hfind
      split at hfind
      · next heq =>
        subst heq
        obtain rfl := Option.some.inj hfind
        have hothers : (rest.filter fun e => e.1 = k) = [] := by
          rw [List.filter_eq_nil_iff]
          intro e he
          have hlt : k < e.1 := hk e he
          have hne : e.1 ≠ k := fun heq => String.lt_irrefl k (heq ▸ hlt)
          simpa using hne
        rw [List.filter_cons_of_pos (by simp), hothers]
      · next hne =>
        rw [List.filter_cons_of_neg (by simpa using hne)]
        exact ih hrest hfind
  exact this d.entries d.increase h

/-- A dictionary is what is found in it. -/
theorem ext_get? {d e : Dict α} (h : ∀ key, d.get? key = e.get? key) : d = e := by
  have hperm : d.entries.Perm e.entries := by
    have hnodup (d : Dict α) : d.entries.Nodup := by
      refine d.increase.imp fun hlt heq => ?_
      subst heq
      exact String.lt_irrefl _ hlt
    refine (List.perm_ext_iff_of_nodup (hnodup d) (hnodup e)).2 fun x => ?_
    rw [← get?_eq_some_iff, ← get?_eq_some_iff, h]
  exact Dict.ext (hperm.eq_of_pairwise
    (fun _ _ _ _ hxy hyx => absurd hyx (String.lt_asymm hxy)) d.increase e.increase)

/-- Entries in key order are what is found in them. -/
theorem eq_of_find {entries others : List (String × α)} (hentries : KeysIncrease entries)
    (hothers : KeysIncrease others) (h : ∀ key, find key entries = find key others) :
    entries = others := by
  have hsame : (⟨entries, hentries⟩ : Dict α) = ⟨others, hothers⟩ := ext_get? h
  exact congrArg Dict.entries hsame

/-- What holds of all entries and of a new one holds of all entries after the insertion. -/
theorem forall_get?_insert {P : String → α → Prop} (h : ∀ k v, d.get? k = some v → P k v)
    (hnew : P key value) : ∀ k v, (d.insert key value).get? k = some v → P k v := by
  intro k v hk
  rw [get?_insert] at hk
  split at hk
  · next heq => cases hk; exact heq ▸ hnew
  · exact h k v hk

theorem mem_keys_insert {k : String} : k ∈ (d.insert key value).keys ↔ k = key ∨ k ∈ d.keys := by
  rw [mem_keys_iff, mem_keys_iff, get?_insert]
  by_cases h : key = k
  · simp [h]
  · simp [h, Ne.symm h]

theorem get?_map (f : α → β) (d : Dict α) (key : String) :
    (d.map f).get? key = (d.get? key).map f := by
  have (entries : List (String × α)) :
      find key (entries.map fun e => (e.1, f e.2)) = (find key entries).map f := by
    induction entries with
    | nil => rfl
    | cons e rest ih =>
      simp only [List.map_cons, find]
      split
      · rfl
      · exact ih
  exact this d.entries

/-- Every entry of a scan comes from an entry under the same key. -/
theorem get?_scan {f : σ → α → σ × β} {gathered : σ} {b : β}
    (h : (d.scan f gathered).get? key = some b) :
    ∃ a g, d.get? key = some a ∧ b = (f g a).2 := by
  have (entries : List (String × α)) (g : σ) (hfind : find key (scanEntries f g entries) = some b) :
      ∃ a g, find key entries = some a ∧ b = (f g a).2 := by
    induction entries generalizing g with
    | nil => cases hfind
    | cons e rest ih =>
      obtain ⟨k, a⟩ := e
      rw [scanEntries, find] at hfind
      by_cases hk : k = key
      · rw [if_pos hk] at hfind
        exact ⟨a, g, by simp [find, hk], (Option.some.inj hfind).symm⟩
      · rw [if_neg hk] at hfind
        simpa [find, hk] using ih _ hfind
  exact this d.entries gathered h

/-- What is gathered from some entries is there for those after them. -/
theorem scanEntries_append (f : σ → α → σ × β) (gathered : σ) (before after : List (String × α)) :
    scanEntries f gathered (before ++ after) = scanEntries f gathered before ++
      scanEntries f (before.foldl (fun g e => (f g e.2).1) gathered) after := by
  induction before generalizing gathered with
  | nil => rfl
  | cons e before ih =>
    rw [List.cons_append, scanEntries, scanEntries, ih, List.foldl_cons, List.cons_append]

theorem get?_scan_of_split {before after : List (String × α)}
    (h : d.entries = before ++ (key, value) :: after) (f : σ → α → σ × β) (gathered : σ) :
    (d.scan f gathered).get? key =
      some (f (before.foldl (fun g e => (f g e.2).1) gathered) value).2 := by
  refine get?_eq_some_iff.2 ?_
  change _ ∈ scanEntries f gathered d.entries
  rw [h, scanEntries_append, scanEntries]
  exact List.mem_append_right _ List.mem_cons_self

/-- The entries before one are those of smaller keys. -/
theorem mem_before_iff {before after : List (String × α)}
    (h : d.entries = before ++ (key, value) :: after) {other : String} {v : α} :
    (other, v) ∈ before ↔ other < key ∧ d.get? other = some v := by
  have hincrease := d.increase
  rw [KeysIncrease, h, List.pairwise_append, List.pairwise_cons] at hincrease
  obtain ⟨-, ⟨hafter, -⟩, hbefore⟩ := hincrease
  rw [get?_eq_some_iff, h, List.mem_append, List.mem_cons]
  constructor
  · intro hmem
    exact ⟨hbefore _ hmem _ List.mem_cons_self, .inl hmem⟩
  · rintro ⟨hlt, hmem | heq | hmem⟩
    · exact hmem
    · cases heq
      exact absurd hlt (String.lt_irrefl _)
    · exact absurd hlt (String.lt_asymm (hafter _ hmem))

/-! ## Lists of entries

What is found in entries that need not be in order. -/

variable {entries : List (String × α)}

theorem mem_of_find (h : find key entries = some value) : (key, value) ∈ entries := by
  induction entries with
  | nil => cases h
  | cons e rest ih =>
    obtain ⟨k, v⟩ := e
    rw [find] at h
    split at h
    · next heq =>
      obtain rfl := Option.some.inj h
      exact heq ▸ List.mem_cons_self
    · exact List.mem_cons_of_mem _ (ih h)

theorem mem_ofList {e : String × α} (h : e ∈ (ofList entries).entries) : e ∈ entries := by
  have (entries : List (String × α)) (d : Dict α)
      (h : e ∈ (entries.foldl (fun d e => d.insert e.1 e.2) d).entries) :
      e ∈ entries ∨ e ∈ d.entries := by
    induction entries generalizing d with
    | nil => exact .inr h
    | cons first rest ih =>
      rcases ih _ h with h | h
      · exact .inl (List.mem_cons_of_mem _ h)
      · rcases mem_insertEntry h with rfl | h
        · exact .inl List.mem_cons_self
        · exact .inr h
  exact (this entries empty h).resolve_right List.not_mem_nil

theorem insertEntry_of_forall_lt (h : ∀ e ∈ entries, e.1 < key) :
    insertEntry key value entries = entries ++ [(key, value)] := by
  induction entries with
  | nil => rfl
  | cons e rest ih =>
    obtain ⟨k, v⟩ := e
    obtain ⟨hk, hrest⟩ := List.forall_mem_cons.1 h
    have hne : key ≠ k := fun heq => String.lt_irrefl k (heq ▸ hk)
    rw [insertEntry, if_neg (String.lt_asymm hk), if_neg hne, ih hrest, List.cons_append]

/-- Entries in key order are kept as they are. -/
theorem entries_ofList (h : KeysIncrease entries) : (ofList entries).entries = entries := by
  have (entries : List (String × α)) (d : Dict α) (h : KeysIncrease (d.entries ++ entries)) :
      (entries.foldl (fun d e => d.insert e.1 e.2) d).entries = d.entries ++ entries := by
    induction entries generalizing d with
    | nil => exact (List.append_nil _).symm
    | cons e rest ih =>
      have hinsert : (d.insert e.1 e.2).entries = d.entries ++ [e] :=
        insertEntry_of_forall_lt fun x hx =>
          (List.pairwise_append.1 h).2.2 x hx e List.mem_cons_self
      rw [List.foldl_cons, ih, hinsert, List.append_assoc, List.singleton_append]
      rw [hinsert, List.append_assoc, List.singleton_append]
      exact h
  exact this entries empty h

theorem isSome_find_iff : (find key entries).isSome ↔ key ∈ entries.map (·.1) := by
  induction entries with
  | nil => simp [find]
  | cons e rest ih =>
    obtain ⟨k, v⟩ := e
    rw [find, List.map_cons, List.mem_cons]
    split
    · next heq => simp [heq]
    · next hne => simp [ih, Ne.symm hne]

theorem isSome_get?_ofList (key : String) (entries : List (String × α)) :
    ((ofList entries).get? key).isSome ↔ key ∈ entries.map (·.1) := by
  have (entries : List (String × α)) (d : Dict α) :
      ((entries.foldl (fun d e => d.insert e.1 e.2) d).get? key).isSome ↔
        key ∈ entries.map (·.1) ∨ (d.get? key).isSome := by
    induction entries generalizing d with
    | nil => simp
    | cons e rest ih =>
      rw [List.foldl_cons, ih, get?_insert, List.map_cons, List.mem_cons]
      by_cases heq : e.1 = key
      · simp [heq]
      · simp [heq, Ne.symm heq]
  rw [ofList, this, get?_empty]
  simp

/-- An entry of a new key takes nothing away, wherever it is put. -/
theorem find_insertEntry_of_none {other : String} (h : find key entries = none) :
    find other (insertEntry key value entries) =
      if key = other then some value else find other entries := by
  induction entries with
  | nil => rfl
  | cons e rest ih =>
    obtain ⟨k, v⟩ := e
    rw [find] at h
    split at h
    · cases h
    · next hk =>
      rw [insertEntry]
      split
      · rfl
      · rw [if_neg (Ne.symm hk), find, find, ih h]
        by_cases hother : k = other
        · subst hother
          rw [if_pos rfl, if_neg (Ne.symm hk), if_pos rfl]
        · rw [if_neg hother, if_neg hother]

/-! ## Related dictionaries -/

/-- The same keys, and values that `R` relates at their key. -/
def RelatedAt (R : String → α → β → Prop) (d : Dict α) (e : Dict β) : Prop :=
  List.Forall₂ (fun x y => x.1 = y.1 ∧ R x.1 x.2 y.2) d.entries e.entries

variable {Q : String → α → β → Prop} {e : Dict β}

theorem relatedAt_empty : RelatedAt Q (empty : Dict α) (empty : Dict β) := .nil

theorem RelatedAt.get? (h : RelatedAt Q d e) (key : String) :
    Option.Rel (Q key) (d.get? key) (e.get? key) := by
  have (entries : List (String × α)) (entries' : List (String × β))
      (h : List.Forall₂ (fun x y => x.1 = y.1 ∧ Q x.1 x.2 y.2) entries entries') :
      Option.Rel (Q key) (find key entries) (find key entries') := by
    induction h with
    | nil => exact .none
    | @cons x y _ _ hxy _ ih =>
      obtain ⟨k, v⟩ := x
      obtain ⟨k', v'⟩ := y
      obtain ⟨rfl, hv⟩ := hxy
      simp only [find]
      split
      · next hk => exact .some (hk ▸ hv)
      · exact ih
  exact this _ _ h

theorem RelatedAt.insert (h : RelatedAt Q d e) {a : α} {b : β} (hab : Q key a b) :
    RelatedAt Q (d.insert key a) (e.insert key b) := by
  have (entries : List (String × α)) (entries' : List (String × β))
      (h : List.Forall₂ (fun x y => x.1 = y.1 ∧ Q x.1 x.2 y.2) entries entries') :
      List.Forall₂ (fun x y => x.1 = y.1 ∧ Q x.1 x.2 y.2) (insertEntry key a entries)
        (insertEntry key b entries') := by
    induction h with
    | nil => exact .cons ⟨rfl, hab⟩ .nil
    | @cons x y _ _ hxy hrest ih =>
      obtain ⟨k, v⟩ := x
      obtain ⟨k', v'⟩ := y
      obtain ⟨rfl, hv⟩ := hxy
      simp only [insertEntry]
      split
      · exact .cons ⟨rfl, hab⟩ (.cons ⟨rfl, hv⟩ hrest)
      · split
        · exact .cons ⟨rfl, hab⟩ hrest
        · exact .cons ⟨rfl, hv⟩ ih
  exact this _ _ h

/-- A scan of related values keeps them related, if what it gathers is the same. -/
theorem RelatedAt.scan {f : σ → α → σ × α'} {g : σ → β → σ × β'} {S : String → α' → β' → Prop}
    (h : RelatedAt Q d e)
    (hstep : ∀ key gathered a b, Q key a b →
      (f gathered a).1 = (g gathered b).1 ∧ S key (f gathered a).2 (g gathered b).2)
    (gathered : σ) : RelatedAt S (d.scan f gathered) (e.scan g gathered) := by
  have (entries : List (String × α)) (entries' : List (String × β))
      (h : List.Forall₂ (fun x y => x.1 = y.1 ∧ Q x.1 x.2 y.2) entries entries') (gathered : σ) :
      List.Forall₂ (fun x y => x.1 = y.1 ∧ S x.1 x.2 y.2) (scanEntries f gathered entries)
        (scanEntries g gathered entries') := by
    induction h generalizing gathered with
    | nil => exact .nil
    | @cons x y _ _ hxy _ ih =>
      obtain ⟨k, v⟩ := x
      obtain ⟨k', v'⟩ := y
      obtain ⟨rfl, hv⟩ := hxy
      obtain ⟨hgathered, hvalue⟩ := hstep _ gathered v v' hv
      rw [scanEntries, scanEntries, hgathered]
      exact .cons ⟨rfl, hvalue⟩ (ih _)
  exact this _ _ h gathered

theorem RelatedAt.map {f : α → α'} {g : β → β'} {S : String → α' → β' → Prop}
    (h : RelatedAt Q d e) (hmap : ∀ key a b, Q key a b → S key (f a) (g b)) :
    RelatedAt S (d.map f) (e.map g) :=
  List.forall₂_map_left_iff.2 (List.forall₂_map_right_iff.2
    (h.imp fun _ _ hxy => ⟨hxy.1, hmap _ _ _ hxy.2⟩))

theorem RelatedAt.eq {P : String → α → α → Prop} {d e : Dict α} (h : RelatedAt P d e)
    (heq : ∀ key a b, P key a b → a = b) : d = e := by
  refine Dict.ext (List.forall₂_eq_eq_eq ▸ h.imp fun x y hxy => ?_)
  exact Prod.ext hxy.1 (heq _ _ _ hxy.2)

/-- The same keys, and related values. -/
def Related (R : α → β → Prop) (d : Dict α) (e : Dict β) : Prop :=
  List.Forall₂ (fun x y => x.1 = y.1 ∧ R x.2 y.2) d.entries e.entries

variable {R : α → β → Prop}

theorem Related.keys (h : Related R d e) : d.keys = e.keys := by
  have (entries : List (String × α)) (entries' : List (String × β))
      (h : List.Forall₂ (fun x y => x.1 = y.1 ∧ R x.2 y.2) entries entries') :
      entries.map (·.1) = entries'.map (·.1) := by
    induction h with
    | nil => rfl
    | cons hxy _ ih => rw [List.map_cons, List.map_cons, hxy.1, ih]
  exact this _ _ h

theorem Related.get? (h : Related R d e) (key : String) : Option.Rel R (d.get? key) (e.get? key) :=
  RelatedAt.get? (Q := fun _ => R) h key

end ApiCli.Dict

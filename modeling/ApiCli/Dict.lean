/-! # Dictionaries

A `Dict α` is a finite map from strings, kept as its list of entries in strictly increasing
key order (by code point). Iteration order is therefore a function of the contents, and two
dictionaries with the same entries are equal.

* `get?` looks a key up, `insert` adds or replaces one, `ofList` inserts from left to right,
  so the last entry of a key wins.
* `keys` and `values` list the two components in key order. -/

namespace ApiCli

/-- Entries whose keys increase strictly, so no key occurs twice. -/
def KeysIncrease (entries : List (String × α)) : Prop :=
  entries.Pairwise fun a b => a.1 < b.1

/-- A finite map from strings, with its entries in key order. -/
structure Dict (α : Type) where
  entries : List (String × α)
  increase : KeysIncrease entries

namespace Dict

def empty : Dict α := ⟨[], .nil⟩

instance : EmptyCollection (Dict α) := ⟨empty⟩
instance : Inhabited (Dict α) := ⟨empty⟩

@[ext] theorem ext {d e : Dict α} (h : d.entries = e.entries) : d = e := by
  cases d; cases e; cases h; rfl

instance [DecidableEq α] : DecidableEq (Dict α) := fun d e =>
  decidable_of_iff (d.entries = e.entries) ⟨ext, fun h => h ▸ rfl⟩

/-- The value of the first entry with key `key`. -/
def find (key : String) : List (String × α) → Option α
  | [] => none
  | (k, v) :: rest => if k = key then some v else find key rest

def get? (d : Dict α) (key : String) : Option α := find key d.entries

def contains (d : Dict α) (key : String) : Bool := (d.get? key).isSome

def keys (d : Dict α) : List String := d.entries.map (·.1)

def values (d : Dict α) : List α := d.entries.map (·.2)

def size (d : Dict α) : Nat := d.entries.length

def isEmpty (d : Dict α) : Bool := d.entries.isEmpty

/-- Put an entry before the first greater key, in place of an entry of the same key. -/
def insertEntry (key : String) (value : α) : List (String × α) → List (String × α)
  | [] => [(key, value)]
  | (k, v) :: rest =>
    if key < k then (key, value) :: (k, v) :: rest
    else if key = k then (key, value) :: rest
    else (k, v) :: insertEntry key value rest

/-- The entries after an insertion are the new one and some of the old ones. -/
theorem mem_insertEntry {key : String} {value : α} {x : String × α} :
    ∀ {entries : List (String × α)}, x ∈ insertEntry key value entries →
      x = (key, value) ∨ x ∈ entries
  | [], h => .inl (List.mem_singleton.1 h)
  | (k, v) :: rest, h => by
    unfold insertEntry at h
    split at h
    · exact List.mem_cons.1 h
    · split at h
      · exact (List.mem_cons.1 h).imp_right (List.mem_cons_of_mem _)
      · rcases List.mem_cons.1 h with h | h
        · exact .inr (h ▸ List.mem_cons_self)
        · exact (mem_insertEntry h).imp_right (List.mem_cons_of_mem _)

/-- Of two different keys one is smaller. -/
theorem lt_of_not_lt_of_ne {a b : String} (h : ¬a < b) (hne : a ≠ b) : b < a :=
  Decidable.byContradiction fun h' =>
    hne (String.le_antisymm (String.not_lt.1 h') (String.not_lt.1 h))

theorem increase_insertEntry {key : String} {value : α} :
    ∀ {entries : List (String × α)}, KeysIncrease entries →
      KeysIncrease (insertEntry key value entries)
  | [], _ => List.pairwise_singleton _ _
  | (k, v) :: rest, h => by
    have ⟨hk, hrest⟩ := List.pairwise_cons.1 h
    unfold insertEntry
    split
    · next hlt =>
      refine List.pairwise_cons.2 ⟨fun x hx => ?_, h⟩
      rcases List.mem_cons.1 hx with rfl | hx
      · exact hlt
      · exact String.lt_trans hlt (hk x hx)
    · next hlt =>
      split
      · next heq => subst heq; exact List.pairwise_cons.2 ⟨hk, hrest⟩
      · next hne =>
        refine List.pairwise_cons.2 ⟨fun x hx => ?_, increase_insertEntry hrest⟩
        rcases mem_insertEntry hx with rfl | hx
        · exact lt_of_not_lt_of_ne hlt hne
        · exact hk x hx

/-- Store `value` under `key`, replacing what was there. -/
def insert (d : Dict α) (key : String) (value : α) : Dict α :=
  ⟨insertEntry key value d.entries, increase_insertEntry d.increase⟩

/-- Insert every entry in turn; the last one of a key wins. -/
def ofList (entries : List (String × α)) : Dict α :=
  entries.foldl (fun d e => d.insert e.1 e.2) empty

def map (f : α → β) (d : Dict α) : Dict β :=
  ⟨d.entries.map fun e => (e.1, f e.2), by
    simp only [KeysIncrease, List.pairwise_map]; exact d.increase⟩

/-- New values from left to right, each from the old one and what has been gathered before. -/
def scanEntries (f : σ → α → σ × β) (gathered : σ) :
    List (String × α) → List (String × β)
  | [] => []
  | (key, value) :: rest =>
    (key, (f gathered value).2) :: scanEntries f (f gathered value).1 rest

theorem map_fst_scanEntries (f : σ → α → σ × β) :
    ∀ (gathered : σ) (entries : List (String × α)),
      (scanEntries f gathered entries).map (·.1) = entries.map (·.1)
  | _, [] => rfl
  | gathered, (_, value) :: rest =>
    congrArg (_ :: ·) (map_fst_scanEntries f (f gathered value).1 rest)

theorem keysIncrease_iff {entries : List (String × α)} :
    KeysIncrease entries ↔ (entries.map (·.1)).Pairwise (· < ·) := by
  simp only [KeysIncrease, List.pairwise_map]

/-- The same keys with new values, each computed from the old one and what the entries before it
have gathered. -/
def scan (f : σ → α → σ × β) (gathered : σ) (d : Dict α) : Dict β :=
  ⟨scanEntries f gathered d.entries, by
    rw [keysIncrease_iff, map_fst_scanEntries, ← keysIncrease_iff]; exact d.increase⟩

theorem find_insertEntry {key other : String} {value : α} :
    ∀ {entries : List (String × α)}, KeysIncrease entries →
      find other (insertEntry key value entries) =
        if key = other then some value else find other entries
  | [], _ => rfl
  | (k, v) :: rest, h => by
    have ⟨hk, hrest⟩ := List.pairwise_cons.1 h
    unfold insertEntry
    split
    · rfl
    · split
      · next heq =>
        subst heq
        by_cases ho : key = other <;> simp [find, ho]
      · next hne =>
        by_cases hko : k = other
        · subst hko; simp [find, hne]
        · simp [find, hko, find_insertEntry hrest]

/-- An insertion changes the value of its own key only. -/
theorem get?_insert (d : Dict α) (key other : String) (value : α) :
    (d.insert key value).get? other = if key = other then some value else d.get? other :=
  find_insertEntry d.increase

@[simp] theorem get?_insert_self (d : Dict α) (key : String) (value : α) :
    (d.insert key value).get? key = some value := by simp [get?_insert]

@[simp] theorem get?_empty (key : String) : (empty : Dict α).get? key = none := rfl

end Dict
end ApiCli

import ApiCli.Arguments.Value
import ApiCli.Proofs.Text.Split

/-!
# Values of a type

What raw values stand for in the type of an argument, and when they travel as an empty text:
only a raw value that is empty itself does.
-/

namespace ApiCli

/-- The values of a type that raw values stand for: those of an array are cut at commas. -/
def FlagType.readAll? (t : FlagType) (raws : List String) : Option (List String) :=
  (if t.isArray then raws.flatMap (Text.splitOn ',') else raws).mapM t.scalar.read?

theorem Scalar.read?_ne_empty {t : Scalar} (hraw : raw ≠ "") (h : t.read? raw = some value) :
    value ≠ "" := by
  cases t with
  | string =>
    cases h
    exact hraw
  | integer =>
    obtain ⟨n, -, rfl⟩ := Option.map_eq_some_iff.1 h
    rw [Int.toString_eq_repr, Int.repr_eq_if]
    split
    · exact Nat.repr_ne_empty
    · simp
  | boolean =>
    obtain ⟨b, -, rfl⟩ := Option.map_eq_some_iff.1 h
    cases b <;> decide

namespace FlagType

@[simp] theorem readAll?_nil (t : FlagType) : t.readAll? [] = some [] := by
  simp [readAll?]

theorem readAll?_cons {t : FlagType} (h : t.readAll? [raw] = some values)
    (hrest : t.readAll? raws = some values') :
    t.readAll? (raw :: raws) = some (values ++ values') := by
  unfold readAll? at *
  split at h
  · next harray =>
    rw [if_pos harray] at hrest ⊢
    rw [List.flatMap_cons, List.mapM_append, hrest]
    simp at h
    simp [h]
  · next harray =>
    rw [if_neg harray] at hrest ⊢
    rw [← List.singleton_append, List.mapM_append, h, hrest]
    rfl

/-- The parts of an array's raw value stand for the same values as the raw value. -/
theorem readAll?_splitOn {t : FlagType} (h : t.isArray = true) (raw : String) :
    t.readAll? (Text.splitOn ',' raw) = t.readAll? [raw] := by
  simp [readAll?, h, Text.flatMap_splitOn]

/-- A raw value that is not empty does not travel as an empty text. -/
theorem intercalate_ne_empty {t : FlagType} (hraw : raw ≠ "")
    (h : t.readAll? [raw] = some values) : ",".intercalate values ≠ "" := by
  have hparts : ∃ parts, parts.mapM t.scalar.read? = some values ∧
      (parts = [raw] ∨ ∃ p q rest, parts = p :: q :: rest) := by
    unfold readAll? at h
    split at h
    · refine ⟨Text.splitOn ',' raw, by simpa using h, ?_⟩
      match hsplit : Text.splitOn ',' raw with
      | [] => exact absurd hsplit (Text.splitOn_ne_nil ',' raw)
      | [p] => exact .inl (by rw [Text.eq_of_splitOn_singleton hsplit])
      | p :: q :: rest => exact .inr ⟨p, q, rest, rfl⟩
    · exact ⟨[raw], h, .inl rfl⟩
  obtain ⟨parts, hread, rfl | ⟨p, q, rest, rfl⟩⟩ := hparts
  · obtain ⟨value, hvalue, rfl⟩ : ∃ value, t.scalar.read? raw = some value ∧ [value] = values := by
      simpa [Option.bind_eq_some_iff] using hread
    rw [String.intercalate_singleton]
    exact Scalar.read?_ne_empty hraw hvalue
  · obtain ⟨v, w, vs, rfl⟩ : ∃ v w vs, values = v :: w :: vs := by
      simp only [List.mapM_cons, Option.bind_eq_bind, Option.bind_eq_some_iff] at hread
      obtain ⟨v, -, ws, ⟨w, -, vs, -, hws⟩, hvalues⟩ := hread
      cases hws
      cases hvalues
      exact ⟨v, w, vs, rfl⟩
    simp

end FlagType
end ApiCli

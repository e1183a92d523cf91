import ApiCli.Proofs.Text.Normalize
import ApiCli.Proofs.Url.Parse

/-!
# The end of an authority

The text of a URL is freed of the controls and blanks at its ends before it is read. Inside the text
they stay, and there none of them can be the last character of the authority of a special URL: it
would be the last one of a domain name, of an address or of a port.

* `EndsInBlank` says that a text ends in a control or a blank.
* `not_endsInBlank_of_parseHost`, `not_endsInBlank_of_parsePort` and
  `not_endsInBlank_of_parseAuthority`: what is read does not.
-/

namespace ApiCli

variable {c : Char}

/-! ## Blanks -/

theorem toNat_le_of_blank (h : c ≤ ' ') : c.toNat ≤ 32 := UInt32.le_iff_toNat_le.1 h

/-- What holds of the first code points holds of every control and blank. -/
theorem forall_blank {p : Char → Prop} (h : ∀ n < 33, p (Char.ofNat n)) : ∀ c ≤ ' ', p c :=
  fun c hc => Char.ofNat_toNat c ▸ h c.toNat (Nat.lt_succ_of_le (toNat_le_of_blank hc))

/-! ## Domain names -/

namespace Domain

/-- A control or a blank stands for itself. -/
theorem map?_concat_blank (h : c ≤ ' ') (text : List Char) :
    map? (text ++ [c]) = (map? text).map (· ++ [c]) := by
  have hlower : c.toLower = c := forall_blank (p := fun c => c.toLower = c) (by decide) c h
  have hc : mapChar? c = some [c] := by
    have hascii : c.toNat < 128 := Nat.lt_of_le_of_lt (toNat_le_of_blank h) (by decide)
    rw [mapChar?, if_pos hascii, hlower]
  unfold map?
  rw [List.mapM_append, List.mapM_cons, hc]
  cases text.mapM mapChar? with
  | none => rfl
  | some parts => simp

/-- No domain name ends in a control or a blank. -/
theorem toAscii?_concat_blank (h : c ≤ ' ') (bytes : List UInt8) :
    toAscii? (bytes ++ [UInt8.ofNat c.toNat]) = none := by
  have hle := toNat_le_of_blank h
  have hnat : (UInt8.ofNat c.toNat).toNat = c.toNat := by
    rw [UInt8.toNat_ofNat', Nat.mod_eq_of_lt (by omega)]
  have hascii : UInt8.ofNat c.toNat < 0x80 := by
    rw [UInt8.lt_iff_toNat_lt, hnat]
    exact Nat.lt_of_le_of_lt hle (by decide)
  have hforbidden (before : List Char) : (before ++ [c]).any isForbidden = true := by
    simp [isForbidden, h]
  unfold toAscii?
  rw [Utf8.decode?_concat hascii, hnat, Char.ofNat_toNat]
  cases Utf8.decode? bytes with
  | none => rfl
  | some text =>
    rw [Option.map_some, Option.bind_eq_bind, Option.bind_some, map?_concat_blank h]
    cases map? text with
    | none => rfl
    | some mapped =>
      rw [Option.map_some, Option.bind_some,
        Text.normalize_concat (Nat.lt_of_le_of_lt hle (by decide))]
      dsimp only
      rw [if_pos (hforbidden _)]
      rfl

end Domain

namespace Url

variable {s t : List Char}

/-! ## Ends of a text -/

/-- The last character is a control or a blank. -/
def EndsInBlank (s : List Char) : Prop := ∃ c ∈ s.getLast?, c ≤ ' '

theorem EndsInBlank.exists_concat (h : EndsInBlank s) : ∃ before c, s = before ++ [c] ∧ c ≤ ' ' := by
  obtain ⟨c, hlast, hc⟩ := h
  obtain ⟨before, rfl⟩ := List.getLast?_eq_some_iff.1 hlast
  exact ⟨before, c, rfl, hc⟩

theorem endsInBlank_append_iff (ht : t ≠ []) : EndsInBlank (s ++ t) ↔ EndsInBlank t := by
  have hlast : (s ++ t).getLast? = t.getLast? := by
    rw [List.getLast?_append, List.getLast?_eq_some_getLast ht, Option.some_or]
  rw [EndsInBlank, EndsInBlank, hlast]

theorem endsInBlank_concat : EndsInBlank (s ++ [c]) ↔ c ≤ ' ' := by simp [EndsInBlank]

theorem endsInBlank_append (ht : t ≠ []) (hblank : ∀ c ∈ t, c ≤ ' ') : EndsInBlank (s ++ t) :=
  (endsInBlank_append_iff ht).2
    ⟨t.getLast ht, List.getLast?_eq_some_getLast ht, hblank _ (List.getLast_mem ht)⟩

/-! ## Hosts and ports -/

theorem not_endsInBlank_of_parseHost (h : parseHost s = .ok host) : ¬EndsInBlank s := by
  intro hblank
  obtain ⟨before, c, rfl, hc⟩ := hblank.exists_concat
  have hne : c ≠ ']' := forall_blank (p := fun c => c ≠ ']') (by decide) c hc
  have hnone : Domain.toAscii? (Percent.decode (Utf8.encode (before ++ [c]))) = none := by
    have hascii : c.toNat < 128 := Nat.lt_of_le_of_lt (toNat_le_of_blank hc) (by decide)
    have hdigit : Percent.hexValue? (UInt8.ofNat c.toNat) = none :=
      forall_blank (p := fun c => Percent.hexValue? (UInt8.ofNat c.toNat) = none) (by decide) c hc
    have hencode : Utf8.encode [c] = [UInt8.ofNat c.toNat] := by
      rw [Utf8.encode_cons, Utf8.utf8EncodeChar_ascii hascii]
      rfl
    rw [Utf8.encode_append, hencode, Percent.decode_concat hdigit, Domain.toAscii?_concat_blank hc]
  unfold parseHost at h
  split at h
  · -- the text is in brackets, and ends in one
    next inner heq =>
    have hinner : inner.getLast? ≠ some ']' := by
      intro hlast
      have hlast' := congrArg List.getLast? heq
      rw [List.getLast?_concat, List.getLast?_cons, hlast] at hlast'
      exact hne (Option.some.inj hlast')
    rw [if_neg hinner] at h
    cases h
  · rw [hnone] at h
    cases h

theorem not_endsInBlank_of_parsePort {scheme : String} (h : parsePort scheme s = .ok (port, rest))
    (hs : '\\' ∉ s) : ¬EndsInBlank s := by
  intro hblank
  obtain ⟨before, c, rfl, hc⟩ := hblank.exists_concat
  have hdigit : c.isDigit = false := forall_blank (p := fun c => c.isDigit = false) (by decide) c hc
  obtain rfl := eq_nil_of_parsePort h hs
  have hrest := (snd_of_parsePort h).1
  rw [List.dropWhile_append] at hrest
  split at hrest
  · rw [List.dropWhile_cons_of_neg (by simp [hdigit])] at hrest
    cases hrest
  · exact List.append_ne_nil_of_right_ne_nil _ (List.cons_ne_nil c []) hrest.symm

/-! ## Authorities -/

/-- A text is a host and, from a colon on, a port. -/
theorem breakAtPort_spec (inBrackets : Bool) (s : List Char) :
    (breakAtPort inBrackets s).1 ++ (breakAtPort inBrackets s).2 = s ∧
      ((breakAtPort inBrackets s).2 = [] ∨ ∃ port, (breakAtPort inBrackets s).2 = ':' :: port) := by
  induction s generalizing inBrackets with
  | nil => exact ⟨rfl, .inl rfl⟩
  | cons c s ih =>
    unfold breakAtPort
    split
    · next hc =>
      simp only [Bool.and_eq_true, decide_eq_true_eq] at hc
      exact ⟨rfl, .inr ⟨s, by rw [hc.1]⟩⟩
    · obtain ⟨happend, hport⟩ := ih (c = '[' || (inBrackets && c ≠ ']'))
      exact ⟨congrArg (c :: ·) happend, hport⟩

/-- Behind a user a text ends as it does with the user. -/
theorem EndsInBlank.behindUser (h : EndsInBlank s) : EndsInBlank (behindUser s) := by
  unfold Url.behindUser
  cases huser : breakAtUser? s with
  | none => exact h
  | some found =>
    obtain ⟨before, c, rfl, hc⟩ := h.exists_concat
    have hne : c ≠ '@' := forall_blank (p := fun c => c ≠ '@') (by decide) c hc
    unfold breakAtUser? at huser
    split at huser
    · cases huser
      change EndsInBlank (((before ++ [c]).reverse.takeWhile (· ≠ '@')).reverse)
      rw [List.reverse_concat, List.takeWhile_cons_of_pos (by simpa using hne), List.reverse_cons]
      exact ⟨c, List.getLast?_concat, hc⟩
    · cases huser

/-- No authority of a special URL ends in a control or a blank. -/
theorem not_endsInBlank_of_parseAuthority {scheme : String} {r : Authority × List Char}
    (hspecial : (SchemeKind.ofScheme scheme).isSpecial = true)
    (h : parseAuthority scheme atEnd s = .ok r) (hs : '\\' ∉ s) : ¬EndsInBlank s := by
  intro hblank
  obtain ⟨host, port, -, hhost, hport⟩ := exists_of_parseAuthority hspecial h
  obtain ⟨happend, hnil | ⟨digits, hdigits⟩⟩ := breakAtPort_spec false (behindUser s)
  · rw [hnil, List.append_nil] at happend
    rw [happend] at hhost
    exact not_endsInBlank_of_parseHost hhost hblank.behindUser
  · have hblank' := hblank.behindUser
    have hmem : '\\' ∉ digits := fun hmem => hs (mem_of_mem_behindUser (happend ▸
      List.mem_append_right _ (hdigits ▸ List.mem_cons_of_mem _ hmem)))
    rw [hdigits] at hport happend
    rw [← happend, endsInBlank_append_iff (List.cons_ne_nil _ _)] at hblank'
    cases digits with
    | nil => exact absurd (endsInBlank_concat (s := []).1 hblank') (by decide)
    | cons digit digits =>
      rw [← List.singleton_append, endsInBlank_append_iff (List.cons_ne_nil _ _)] at hblank'
      exact not_endsInBlank_of_parsePort hport hmem hblank'

end Url
end ApiCli

import Mathlib.Tactic.Set
import ApiCli.Url.Parse
import ApiCli.Proofs.Text.Percent
import ApiCli.Proofs.Text.Replace

/-!
# Segments of encoded components

A path whose segments are encoded components is read segment by segment.

* `ofSegment_encodeComponent`: an encoded component is a dot segment only if it encodes one or
  two dots. Nothing else that is encoded reads as a dot.
* `resolveSegments_of_plain`: without dot segments every segment stays in its place.
* `mem_resolveSegments`: with dot segments, what stays are segments that are none.
-/

namespace ApiCli

open Url Percent

/-! ## Characters -/

theorem mem_encodeComponent_lt {s : String} {c : Char} (h : c ∈ (encodeComponent s).toList) :
    c.toNat < 128 := by
  rcases mem_encodeComponent h with h | rfl
  · exact lt_of_isUnreserved h
  · decide

/-- What holds of the unreserved characters and the percent sign holds of every character of a
component. -/
theorem forall_mem_encodeComponent {p : Char → Prop} {s : String}
    (h : ∀ n < 128, isUnreserved (Char.ofNat n) = true ∨ Char.ofNat n = '%' → p (Char.ofNat n)) :
    ∀ c ∈ (encodeComponent s).toList, p c := by
  intro c hc
  obtain ⟨n, hn, rfl⟩ := Utf8.exists_ofNat (mem_encodeComponent_lt hc)
  exact h n hn (mem_encodeComponent hc)

theorem encodePart_encodeComponent (s : String) :
    encodePart inPathSet (encodeComponent s).toList = encodeComponent s := by
  have hplain : ∀ c ∈ (encodeComponent s).toList, inPathSet c = false :=
    forall_mem_encodeComponent (by decide)
  have hencode : encode inPathSet (encodeComponent s).toList = (encodeComponent s).toList := by
    generalize (encodeComponent s).toList = chars at hplain
    induction chars with
    | nil => rfl
    | cons c chars ih =>
      rw [encode, List.flatMap_cons, ← encode, ih fun d hd => hplain d (List.mem_cons_of_mem _ hd)]
      simp [hplain c List.mem_cons_self]
  rw [encodePart, hencode, String.ofList_toList]

theorem encodePart_append (inSet : Char → Bool) (s t : List Char) :
    encodePart inSet (s ++ t) = encodePart inSet s ++ encodePart inSet t := by
  rw [encodePart, encode, List.flatMap_append, String.ofList_append]
  rfl

/-! ## Dot segments -/

/-- The lower case of a written octet is passed over, unless the octet is that of a dot. -/
theorem replaceAfter_encodeByte {b : UInt8} (h : b ≠ 46) (replacement rest : List Char) :
    Text.replaceAfter ['%', '2', 'e'] replacement 0 ((encodeByte b).map Char.toLower ++ rest) =
      (encodeByte b).map Char.toLower ++ Text.replaceAfter ['%', '2', 'e'] replacement 0 rest := by
  have hb : b.toNat < 256 := b.toNat_lt
  have hhigh : b.toNat / 16 < 16 := by omega
  have hlow : b.toNat % 16 < 16 := by omega
  have htwo : ∀ n < 16, (Text.upperHexDigit n).toLower = '2' → n = 2 := by decide
  have he : ∀ n < 16, (Text.upperHexDigit n).toLower = 'e' → n = 14 := by decide
  have hpercent : ∀ n < 16, (Text.upperHexDigit n).toLower ≠ '%' := by decide
  set high := (Text.upperHexDigit (b.toNat / 16)).toLower
  set low := (Text.upperHexDigit (b.toNat % 16)).toLower
  have hprefix : ¬['%', '2', 'e'] <+: '%' :: ([high, low] ++ rest) := by
    intro hp
    simp only [List.cons_prefix_cons, List.cons_append, true_and, List.nil_append] at hp
    have h₁ := htwo _ hhigh hp.1.symm
    have h₂ := he _ hlow hp.2.1.symm
    refine h (UInt8.toNat_inj.1 ?_)
    rw [show (46 : UInt8).toNat = 46 from rfl]
    omega
  have hrest : '%' ∉ [high, low] := by
    simp [high, low, Ne.symm (hpercent _ hhigh), Ne.symm (hpercent _ hlow)]
  exact (Text.replaceAfter_of_not_prefix hprefix).trans
    (congrArg _ (Text.replaceAfter_append_of_notMem hrest))

theorem ne_dot_of_mem_utf8EncodeChar {c : Char} (hc : isUnreserved c = false) {b : UInt8}
    (hb : b ∈ String.utf8EncodeChar c) : b ≠ 46 := by
  rintro rfl
  have hdot := Utf8.eq_of_mem_utf8EncodeChar hb (by decide)
  have hc' : c = '.' := by rw [← Char.ofNat_toNat c, hdot]; rfl
  subst hc'
  exact absurd hc (by decide)

/-- No dot is written in an encoded component. -/
theorem replaceAfter_encodeComponent (s : String) (replacement : List Char) :
    Text.replaceAfter ['%', '2', 'e'] replacement 0
        ((encodeComponent s).toList.map Char.toLower) =
      (encodeComponent s).toList.map Char.toLower := by
  have hbytes (bytes : List UInt8) (hbytes : ∀ b ∈ bytes, b ≠ 46) (rest : List Char) :
      Text.replaceAfter ['%', '2', 'e'] replacement 0
          ((bytes.flatMap encodeByte).map Char.toLower ++ rest) =
        (bytes.flatMap encodeByte).map Char.toLower ++
          Text.replaceAfter ['%', '2', 'e'] replacement 0 rest := by
    induction bytes with
    | nil => rfl
    | cons b bytes ih =>
      rw [List.flatMap_cons, List.map_append, List.append_assoc,
        replaceAfter_encodeByte (hbytes b List.mem_cons_self),
        ih fun d hd => hbytes d (List.mem_cons_of_mem _ hd), List.append_assoc]
  have hlower : ∀ n < 128, isUnreserved (Char.ofNat n) = true → (Char.ofNat n).toLower ≠ '%' := by
    decide
  rw [encodeComponent, String.toList_ofList]
  induction s.toList with
  | nil => rfl
  | cons c chars ih =>
    rw [encode, List.flatMap_cons, ← encode, List.map_append]
    split
    · next hc =>
      have hreserved : isUnreserved c = false := by simpa using hc
      rw [encodeChar, hbytes _ fun b => ne_dot_of_mem_utf8EncodeChar hreserved, ih]
    · next hc =>
      have hunreserved : isUnreserved c = true := by simpa using hc
      have hne : c.toLower ≠ '%' := by
        obtain ⟨n, hn, rfl⟩ := Utf8.exists_ofNat (lt_of_isUnreserved hunreserved)
        exact hlower n hn hunreserved
      rw [Text.replaceAfter_append_of_notMem (by simp [Ne.symm hne]), ih]

theorem decode_dots {dots : List Char} (hdots : ∀ c ∈ dots, c = '.') :
    decode (Utf8.encode dots) = Utf8.encode dots := by
  induction dots with
  | nil => rfl
  | cons c dots ih =>
    obtain rfl := hdots c List.mem_cons_self
    exact (decode_cons_of_ne (by decide) _).trans
      (congrArg _ (ih fun d hd => hdots d (List.mem_cons_of_mem _ hd)))

/-- A text is dots if the lower case of its encoded form is. -/
theorem eq_of_toLower_encodeComponent {s dots : String} (hdots : ∀ c ∈ dots.toList, c = '.')
    (h : String.ofList ((encodeComponent s).toList.map Char.toLower) = dots) : s = dots := by
  have hdot : ∀ n < 128, (Char.ofNat n).toLower = '.' → Char.ofNat n = '.' := by decide
  have hsame : (encodeComponent s).toList = dots.toList := by
    subst h
    rw [String.toList_ofList] at hdots ⊢
    refine (List.map_id _).symm.trans (List.map_congr_left fun c hc => ?_)
    have hlower := hdots _ (List.mem_map_of_mem hc)
    obtain ⟨n, hn, rfl⟩ := Utf8.exists_ofNat (mem_encodeComponent_lt hc)
    rw [hlower, id, hdot n hn hlower]
  have hdecode := decode_encodeComponent s
  rw [hsame, decode_dots hdots] at hdecode
  exact String.toList_inj.1 (Utf8.encode_injective hdecode).symm

theorem ofSegment_encodeComponent (s : String) :
    SegmentKind.ofSegment (encodeComponent s).toList =
      if s = "." then .here else if s = ".." then .up else .plain := by
  by_cases hhere : s = "."
  · subst hhere
    decide +kernel
  · by_cases hup : s = ".."
    · subst hup
      decide +kernel
    · rw [if_neg hhere, if_neg hup]
      have hreplace : Text.replace "%2e" "." (String.ofList
          ((encodeComponent s).toList.map Char.toLower)) =
          String.ofList ((encodeComponent s).toList.map Char.toLower) := by
        rw [Text.replace, String.toList_ofList, String.toList_ofList, String.toList_ofList,
          replaceAfter_encodeComponent]
      unfold SegmentKind.ofSegment
      rw [hreplace]
      split
      · next hdot => exact absurd (eq_of_toLower_encodeComponent (by simp) hdot) hhere
      · next hdots => exact absurd (eq_of_toLower_encodeComponent (by simp) hdots) hup
      · rfl

/-! ## Segments in their places -/

/-- The segments after one more, kept backwards. -/
def nextSegments (before : List String) (segment : List Char) : List String :=
  match SegmentKind.ofSegment segment with
  | .here => before
  | .up => parentSegments before
  | .plain => addSegment .special before segment

/-- Only the last segment is resolved in another way. -/
theorem resolveSegments_cons (before : List String) (s : List Char) (hrest : rest ≠ []) :
    resolveSegments .special before (s :: rest) =
      resolveSegments .special (nextSegments before s) rest := by
  unfold nextSegments
  rw [resolveSegments]
  · cases SegmentKind.ofSegment s <;> rfl
  · exact hrest

theorem resolveSegments_append (before : List String) (segments : List (List Char))
    (hrest : rest ≠ []) :
    resolveSegments .special before (segments ++ rest) =
      resolveSegments .special (segments.foldl nextSegments before) rest := by
  induction segments generalizing before with
  | nil => rfl
  | cons s segments ih =>
    rw [List.cons_append, resolveSegments_cons _ _ (by simp [hrest]), ih, List.foldl_cons]

theorem resolveSegments_of_plain {segments : List (List Char)} (before : List String)
    (h : ∀ s ∈ segments, SegmentKind.ofSegment s = .plain) :
    resolveSegments .special before segments =
      before.reverse ++ segments.map (encodePart inPathSet) := by
  induction segments generalizing before with
  | nil => simp [resolveSegments]
  | cons s rest ih =>
    have hs := h s List.mem_cons_self
    cases rest with
    | nil => simp [resolveSegments, hs, addSegment]
    | cons t rest =>
      rw [resolveSegments_cons _ _ (List.cons_ne_nil t rest),
        ih _ fun u hu => h u (List.mem_cons_of_mem _ hu), nextSegments, hs]
      simp [addSegment]

theorem mem_parentSegments {before : List String} (h : part ∈ parentSegments before) :
    part ∈ before := by
  cases before with
  | nil => exact h
  | cons s before =>
    rw [parentSegments] at h
    split at h
    · exact h
    · exact List.mem_cons_of_mem _ h

/-- A segment at the end adds at most an empty one, compared to one with others after it. -/
theorem mem_resolveSegments_cons (h : part ∈ resolveSegments .special before (s :: rest)) :
    part = "" ∨ part ∈ resolveSegments .special (nextSegments before s) rest := by
  cases rest with
  | nil =>
    unfold nextSegments
    unfold resolveSegments at h ⊢
    cases hkind : SegmentKind.ofSegment s with
    | plain => exact .inr (by simpa [hkind] using h)
    | here | up => simpa [hkind, or_comm] using h
  | cons t rest => exact .inr (resolveSegments_cons before s (List.cons_ne_nil t rest) ▸ h)

/-- What stays of a path are plain segments, besides empty ones. -/
theorem mem_resolveSegments {segments : List (List Char)} {before : List String}
    (h : part ∈ resolveSegments .special before segments) :
    part ∈ before ∨ part = "" ∨
      ∃ s ∈ segments, SegmentKind.ofSegment s = .plain ∧ part = encodePart inPathSet s := by
  induction segments generalizing before with
  | nil => exact .inl (by simpa [resolveSegments] using h)
  | cons s rest ih =>
    rcases mem_resolveSegments_cons h with rfl | h
    · exact .inr (.inl rfl)
    rcases ih h with h | h | ⟨t, ht, hkind⟩
    · unfold nextSegments at h
      cases hkind : SegmentKind.ofSegment s with
      | here => exact .inl (by simpa [hkind] using h)
      | up => exact .inl (mem_parentSegments (by simpa [hkind] using h))
      | plain =>
        have h : part = encodePart inPathSet s ∨ part ∈ before := by
          simpa [hkind, addSegment] using h
        exact h.symm.imp_right fun h => .inr ⟨s, List.mem_cons_self, hkind, h⟩
    · exact .inr (.inl h)
    · exact .inr (.inr ⟨t, List.mem_cons_of_mem _ ht, hkind⟩)

/-- What stays of encoded components does not read as a dot segment. -/
theorem ne_dots_of_mem_resolveSegments {texts : List String} {part text : String}
    (h : part ∈ resolveSegments .special [] (texts.map fun t => (encodeComponent t).toList))
    (hread : decode (Utf8.encode part.toList) = Utf8.encode text.toList) :
    text ≠ "." ∧ text ≠ ".." := by
  rcases mem_resolveSegments h with h | rfl | ⟨s, hs, hplain, rfl⟩
  · cases h
  · have htext : text = "" := String.toList_inj.1 (Utf8.encode_injective hread.symm)
    subst htext
    decide
  · obtain ⟨t, -, rfl⟩ := List.mem_map.1 hs
    rw [encodePart_encodeComponent, decode_encodeComponent] at hread
    obtain rfl := String.toList_inj.1 (Utf8.encode_injective hread)
    rw [ofSegment_encodeComponent] at hplain
    refine ⟨?_, ?_⟩
    · rintro rfl
      cases hplain
    · rintro rfl
      cases hplain

/-- Encoded components that are no dot segments are the segments of the path. -/
theorem resolveSegments_encodeComponent {texts : List String}
    (h : ∀ t ∈ texts, t ≠ "." ∧ t ≠ "..") :
    resolveSegments .special [] (texts.map fun t => (encodeComponent t).toList) =
      texts.map encodeComponent := by
  rw [resolveSegments_of_plain, List.reverse_nil, List.nil_append, List.map_map]
  · exact List.map_congr_left fun t _ => encodePart_encodeComponent t
  · intro s hs
    obtain ⟨t, ht, rfl⟩ := List.mem_map.1 hs
    rw [ofSegment_encodeComponent, if_neg (h t ht).1, if_neg (h t ht).2]

/-! ## Splitting -/

theorem splitSegments_of_notMem {k : SchemeKind} {s : List Char}
    (h : ∀ c ∈ s, isSlash k c = false) : splitSegments k s = [s] := by
  induction s with
  | nil => rfl
  | cons c s ih =>
    rw [splitSegments, h c List.mem_cons_self, ih fun d hd => h d (List.mem_cons_of_mem _ hd)]
    rfl

theorem splitSegments_ne_nil (k : SchemeKind) (s : List Char) : splitSegments k s ≠ [] := by
  cases s with
  | nil => simp [splitSegments]
  | cons c s =>
    rw [splitSegments]
    split
    · simp
    · split <;> simp

theorem splitSegments_append (k : SchemeKind) (s rest : List Char) :
    splitSegments k (s ++ '/' :: rest) = splitSegments k s ++ splitSegments k rest := by
  induction s with
  | nil => simp [splitSegments, isSlash]
  | cons c s ih =>
    rw [List.cons_append, splitSegments, splitSegments, ih]
    split
    · rfl
    · obtain ⟨segment, segments, hs⟩ := List.exists_cons_of_ne_nil (splitSegments_ne_nil k s)
      rw [hs]
      rfl

/-- Segments without slashes are what is between the slashes before them. -/
theorem splitSegments_flatMap {k : SchemeKind} {s : List Char} {rest : List (List Char)}
    (h : ∀ t ∈ s :: rest, ∀ c ∈ t, isSlash k c = false) :
    splitSegments k (s ++ rest.flatMap ('/' :: ·)) = s :: rest := by
  induction rest generalizing s with
  | nil => simpa using splitSegments_of_notMem (h s List.mem_cons_self)
  | cons t rest ih =>
    rw [List.flatMap_cons, List.cons_append, splitSegments_append,
      splitSegments_of_notMem (h s List.mem_cons_self),
      ih fun u hu => h u (List.mem_cons_of_mem _ hu), List.singleton_append]

end ApiCli

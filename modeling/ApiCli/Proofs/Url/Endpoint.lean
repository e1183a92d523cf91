import ApiCli.Proofs.Url.Origin

/-!
# The path of an endpoint

Segments that are asked for below a base URL are the last ones of the path, as long as no dot segment
is among or behind them. What the base has of a path stands before them.

* `pathText` is the path of a URL as it is written. The path is read from this text alone
  (`path_of_parse`), and what begins with a slash comes behind it (`pathText_append`).
* `exists_parsePath_append`: behind a path, segments are resolved after those of the path.
* `exists_scheme?_clean_plain`: plain characters behind a base are kept as they are.

**Segments below a base** (`exists_path_endpoint`): the URL of an endpoint has the segments that were
asked for at the end of its path.
-/

namespace ApiCli.Url

variable {s t path : List Char} {u : Url}

/-! ## The text of a path -/

/-- The path of a special URL as it is written, in the text after the scheme. Its first slash belongs
to it. -/
def pathText (s : List Char) : List Char :=
  (s.dropWhile (isSlash .special)).dropWhile (!isSlash .special ·)

theorem pathText_append (hs : s.dropWhile (isSlash .special) ≠ []) (path : List Char) :
    pathText (s ++ '/' :: path) = pathText s ++ '/' :: path := by
  have hslash : ('/' :: path).dropWhile (!isSlash .special ·) = '/' :: path :=
    List.dropWhile_cons_of_neg (by simp [isSlash])
  rw [pathText, List.dropWhile_append, if_neg (by simpa using hs), List.dropWhile_append, hslash,
    pathText]
  split
  · next hnil => rw [List.isEmpty_iff.1 hnil, List.nil_append]
  · rfl

theorem isSlash_of_head?_pathText (h : c ∈ (pathText s).head?) : isSlash .special c = true := by
  have hnot := List.head?_dropWhile_not (!isSlash .special ·) (s.dropWhile (isSlash .special))
  rw [← pathText, Option.mem_def.1 h] at hnot
  simpa using hnot

/-- The path of a special URL is read from its text, if neither query nor fragment cuts it off. -/
theorem path_of_parse {scheme : String} (h : parse (String.ofList s) = .ok u)
    (hscheme : scheme? (clean s) = some (scheme, rest))
    (hkind : SchemeKind.ofScheme scheme = .special) (hhash : '#' ∉ rest) (hquestion : '?' ∉ rest) :
    u.path = parsePath .special (pathText rest) := by
  unfold parse at h
  rw [String.toList_ofList, hscheme] at h
  dsimp only at h
  rw [breakAt_of_notMem hhash] at h
  dsimp only at h
  rw [breakAt_of_notMem hquestion] at h
  obtain ⟨⟨authority, path⟩, hhierarchy, h⟩ := Except.bind_eq_ok.1 h
  cases h
  unfold parseHierarchy at hhierarchy
  dsimp only at hhierarchy
  rw [hkind] at hhierarchy
  dsimp only at hhierarchy
  obtain ⟨r, hr, hhierarchy⟩ := Except.bind_eq_ok.1 hhierarchy
  cases hhierarchy
  have hbackslash : '\\' ∉ (rest.dropWhile (isSlash .special)).takeWhile (!isSlash .special ·) :=
    fun hmem => absurd (List.mem_takeWhile_imp hmem) (by decide)
  have hnone := snd_eq_nil_of_parseAuthority (isSpecial_of_special hkind) hr hbackslash
  rw [hnone, List.nil_append, ← pathText]

/-! ## Segments behind a path -/

/-- Segments behind a path are resolved after those of the path. -/
theorem exists_parsePath_append (hpath : ∀ c ∈ path.head?, isSlash .special c = true) :
    ∃ before, ∀ t, parsePath .special (path ++ '/' :: t) =
      .segments (resolveSegments .special [] (before ++ splitSegments .special t)) := by
  cases path with
  | nil => exact ⟨[], fun t => rfl⟩
  | cons c path =>
    refine ⟨splitSegments .special path, fun t => ?_⟩
    rw [List.cons_append, parsePath, if_pos (hpath c rfl), parseSegments, splitSegments_append]

/-! ## Plain characters -/

theorem mem_of_mem_clean (h : c ∈ clean s) : c ∈ s := by
  have htrimmed := List.mem_reverse.1 (List.mem_filter.1 h).1
  have hdropped := List.mem_reverse.1 ((List.dropWhile_suffix _).subset htrimmed)
  exact (List.dropWhile_suffix _).subset hdropped

theorem not_blank_of_isPlain (h : isPlain c = true) : ¬c ≤ ' ' := by
  simp only [isPlain, Bool.and_eq_true, decide_eq_true_eq] at h
  exact Char.not_le.2 h.1.1

theorem filter_isRemoved_of_plain (h : ∀ c ∈ s, isPlain c = true) :
    s.filter (!isRemoved ·) = s := by
  refine List.filter_eq_self.2 fun c hc => ?_
  have hne : ∀ d, d ≤ ' ' → c ≠ d := by
    rintro _ hd rfl
    exact not_blank_of_isPlain (h c hc) hd
  simp [isRemoved, hne '\t' (by decide), hne '\n' (by decide), hne '\r' (by decide)]

theorem not_endsInBlank_of_plain (h : ∀ c ∈ s, isPlain c = true) : ¬EndsInBlank s := by
  rintro ⟨c, hc, hle⟩
  exact not_blank_of_isPlain (h c (List.mem_of_getLast? hc)) hle

/-! ## Segments below a base -/

section

variable {slashes : List Char} {base : Url} (hslashes : ∀ c ∈ slashes, c = '/')
  (hbase : parse (String.ofList (s ++ slashes)) = .ok base)
  (hkind : SchemeKind.ofScheme base.scheme = .special) (hhash : '#' ∉ s) (hquestion : '?' ∉ s)
include hslashes hbase hkind hhash hquestion

/-- A plain path behind a base URL is kept as it is, and nothing cuts it off unless the base has a
query or a fragment. -/
theorem exists_scheme?_clean_plain :
    ∃ start, start.dropWhile (isSlash .special) ≠ [] ∧ '#' ∉ start ∧ '?' ∉ start ∧
      ∀ path ≠ [], (∀ c ∈ path, isPlain c = true) →
        scheme? (clean (s ++ path)) = some (base.scheme, start ++ path) := by
  obtain ⟨start, hne, hstart⟩ := exists_start hslashes hbase hkind
  have hmem : ∀ c ∈ start, c ∈ s ∨ c ≤ ' ' := by
    obtain ⟨rest, blanks, hread, hrest, hblanks⟩ := hstart []
    obtain ⟨name, hname, -⟩ := scheme?_eq_some hread
    rw [List.append_nil] at hname
    rw [List.filter_nil, List.append_nil] at hrest
    intro c hc
    rw [hrest] at hc
    refine (List.mem_append.1 hc).imp (fun hc => mem_of_mem_clean ?_) (hblanks c)
    rw [hname]
    exact List.mem_append_right _ (List.mem_cons_of_mem _ hc)
  refine ⟨start, hne, fun hc => ?_, fun hc => ?_, fun path hpath hplain => ?_⟩
  · exact (hmem _ hc).elim hhash (by decide)
  · exact (hmem _ hc).elim hquestion (by decide)
  · obtain ⟨rest, blanks, hread, hrest, hblanks⟩ := hstart path
    rw [filter_isRemoved_of_plain hplain] at hrest
    have hends : ¬EndsInBlank (start ++ path) := by
      rw [endsInBlank_append_iff hpath]
      exact not_endsInBlank_of_plain hplain
    obtain ⟨more, rfl, hmore⟩ :=
      exists_of_append_blanks hends hblanks ((List.append_nil _).trans hrest)
    rw [hread, (List.append_eq_nil_iff.1 hmore.symm).1, List.append_nil]

/-- Behind a base URL that has neither query nor fragment, the segments after any front are the last
ones of the path. Before them is what the front leaves of the base, which is kept backwards. -/
theorem exists_path_of_parse :
    ∃ before, ∀ front, ∀ segments ≠ [],
      (∀ t ∈ front ++ segments, ∀ c ∈ t, isSegmentChar c = true) →
      (∀ t ∈ segments, SegmentKind.ofSegment t = .plain) →
      ∀ u, parse (String.ofList (s ++ (front ++ segments).flatMap ('/' :: ·))) = .ok u →
        u.path = .segments ((front.foldl nextSegments before).reverse ++
          segments.map (encodePart inPathSet)) := by
  obtain ⟨start, hne, hstartHash, hstartQuestion, hread⟩ :=
    exists_scheme?_clean_plain hslashes hbase hkind hhash hquestion
  obtain ⟨before, hbefore⟩ := exists_parsePath_append
    fun c (hc : c ∈ (pathText start).head?) => isSlash_of_head?_pathText hc
  refine ⟨before.foldl nextSegments [], fun front segments hsegments hchars hplain u hu => ?_⟩
  have hflat := isPlain_of_mem_segments hchars
  have hcut {c : Char} (hstart : c ∉ start) (hc : isPlain c = false) :
      c ∉ start ++ (front ++ segments).flatMap ('/' :: ·) := by
    intro hmem
    rcases List.mem_append.1 hmem with hmem | hmem
    · exact hstart hmem
    · rw [hflat c hmem] at hc
      cases hc
  obtain ⟨t, rest, hall⟩ := List.exists_cons_of_ne_nil (List.append_ne_nil_of_right_ne_nil front
    hsegments)
  have hsplit : splitSegments .special (t ++ rest.flatMap ('/' :: ·)) = front ++ segments := by
    rw [hall] at hchars ⊢
    exact splitSegments_flatMap fun t ht c hc => not_isSlash_of_isSegmentChar (hchars t ht c hc)
  have hpath := path_of_parse hu (hread _ (by simp [hall]) hflat) hkind
    (hcut hstartHash (by decide)) (hcut hstartQuestion (by decide))
  rw [hpath, hall, List.flatMap_cons, List.cons_append, pathText_append hne, hbefore, hsplit,
    ← List.append_assoc, resolveSegments_append _ _ hsegments, List.foldl_append,
    resolveSegments_of_plain _ hplain]

end

end ApiCli.Url

namespace ApiCli

theorem endpoint_segments (baseUrl : String) {segments : List (List Char)} (h : segments ≠ []) :
    endpoint baseUrl (String.ofList (segments.flatMap ('/' :: ·))) =
      String.ofList (dropTrailingSlashes baseUrl.toList ++ segments.flatMap ('/' :: ·)) := by
  obtain ⟨s, rest, rfl⟩ := List.exists_cons_of_ne_nil h
  unfold endpoint
  rw [String.toList_ofList, String.ofList_append]
  rfl

/-- The segments of a path that is asked for, after any front of it, are the last ones of the path of
its endpoint. What the base has before the front does not depend on the path. -/
theorem exists_path_endpoint {baseUrl : String} {base : Url} (hbase : Url.parse baseUrl = .ok base)
    (hkind : SchemeKind.ofScheme base.scheme = .special) (hhash : '#' ∉ baseUrl.toList)
    (hquestion : '?' ∉ baseUrl.toList) :
    ∃ before, ∀ front, ∀ segments ≠ [],
      (∀ t ∈ front ++ segments, ∀ c ∈ t, Url.isSegmentChar c = true) →
      (∀ t ∈ segments, Url.SegmentKind.ofSegment t = .plain) →
      ∀ url, Url.parse (endpoint baseUrl
          (String.ofList ((front ++ segments).flatMap ('/' :: ·)))) = .ok url →
        url.path = .segments ((front.foldl nextSegments before).reverse ++
          segments.map (Url.encodePart Url.inPathSet)) := by
  obtain ⟨slashes, hsplit, hslashes⟩ := exists_dropTrailingSlashes_append baseUrl.toList
  have hmem {c : Char} (hc : c ∉ baseUrl.toList) : c ∉ dropTrailingSlashes baseUrl.toList := by
    intro hmem
    rw [hsplit] at hc
    exact hc (List.mem_append_left _ hmem)
  rw [← String.ofList_toList (s := baseUrl), hsplit] at hbase
  obtain ⟨before, hbefore⟩ :=
    Url.exists_path_of_parse hslashes hbase hkind (hmem hhash) (hmem hquestion)
  refine ⟨before, fun front segments hsegments hchars hplain url hurl => ?_⟩
  refine hbefore front segments hsegments hchars hplain url ?_
  rw [← hurl, endpoint_segments _ (List.append_ne_nil_of_right_ne_nil front hsegments)]

end ApiCli

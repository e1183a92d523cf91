import ApiCli.Proofs.Except
import ApiCli.Proofs.Url.Segments

/-!
# URLs of a host

A URL with a host and a path that only has plain characters is read as its parts: the host
decides about the authority, the segments about the path.

* `parseAuthority_eq` and `exists_of_parseAuthority` take the reading of an authority apart: a user,
  a host and a port.
* `parse_host_segments`: segments after a base that is itself a URL give the URL of the base with the
  path of the segments.
-/

namespace ApiCli.Url

/-- A character that neither ends the path of a URL nor is removed from its text. -/
def isPlain (c : Char) : Bool := ' ' < c && c ≠ '#' && c ≠ '?'

/-- A plain character that does not divide segments. -/
def isSegmentChar (c : Char) : Bool := isPlain c && c ≠ '/' && c ≠ '\\'

/-! ## The text of a URL -/

theorem clean_of_plain {s : List Char} (h : ∀ c ∈ s, isPlain c = true) : clean s = s := by
  have hvisible : ∀ c ∈ s, ¬c ≤ ' ' := by
    intro c hc hle
    have := h c hc
    simp [isPlain] at this
    exact absurd this.1.1 (Char.not_lt.2 hle)
  have hend (t : List Char) (ht : ∀ c ∈ t, ¬c ≤ ' ') : t.dropWhile (· ≤ ' ') = t := by
    cases t with
    | nil => rfl
    | cons c t => simp [ht c List.mem_cons_self]
  unfold clean
  dsimp only
  rw [hend s hvisible, hend s.reverse (by simpa using hvisible), List.reverse_reverse,
    List.filter_eq_self]
  intro c hc
  have hblank : ∀ d ∈ ['\t', '\n', '\r'], d ≤ ' ' := by
    intro d hd
    simp only [List.mem_cons, List.not_mem_nil, or_false] at hd
    rcases hd with rfl | rfl | rfl <;> decide
  have hne : c ∉ ['\t', '\n', '\r'] := fun hd => hvisible c hc (hblank c hd)
  simpa [and_assoc] using hne

theorem breakAt_of_notMem {separator : Char} {s : List Char} (h : separator ∉ s) :
    Text.breakAt separator s = (s, none) := by
  induction s with
  | nil => rfl
  | cons c s ih =>
    obtain ⟨hc, hs⟩ := List.ne_and_not_mem_of_not_mem_cons h
    rw [Text.breakAt, if_neg (Ne.symm hc), ih hs]

/-- The URL of a plain text has neither query nor fragment. -/
theorem parse_of_plain {s : List Char} (h : ∀ c ∈ s, isPlain c = true) :
    parse (String.ofList ("http://".toList ++ s)) =
      (parseHierarchy "http" true ('/' :: '/' :: s)).map fun r =>
        ⟨"http", r.1, r.2, none, none⟩ := by
  have hall : ∀ c ∈ "http://".toList ++ s, isPlain c = true := by
    intro c hc
    rcases List.mem_append.1 hc with hc | hc
    · have hscheme : "http://".toList.all isPlain = true := by decide
      exact List.all_eq_true.1 hscheme c hc
    · exact h c hc
  have hscheme : scheme? ("http://".toList ++ s) = some ("http", '/' :: '/' :: s) := by
    rfl
  have hhash : '#' ∉ '/' :: '/' :: s := by
    simp only [List.mem_cons, not_or]
    exact ⟨by decide, by decide, fun hmem => absurd (h _ hmem) (by decide)⟩
  have hquestion : '?' ∉ '/' :: '/' :: s := by
    simp only [List.mem_cons, not_or]
    exact ⟨by decide, by decide, fun hmem => absurd (h _ hmem) (by decide)⟩
  unfold parse
  rw [String.toList_ofList, clean_of_plain hall, hscheme]
  dsimp only
  rw [breakAt_of_notMem hhash]
  dsimp only
  rw [breakAt_of_notMem hquestion]
  simp only [Option.isNone_none, Bool.and_self, Option.map_none]
  cases parseHierarchy "http" true ('/' :: '/' :: s) <;> rfl

/-! ## The authority -/

/-- The digits of a port are read. -/
theorem snd_of_parsePort {scheme : String} (h : parsePort scheme s = .ok (port, rest)) :
    rest = s.dropWhile Char.isDigit ∧ (rest = [] ∨ ∃ path, rest = '\\' :: path) := by
  unfold parsePort at h
  dsimp only at h
  split at h
  · cases h
  · split at h
    · next hrest =>
      cases h
      exact ⟨rfl, .inl hrest⟩
    · next path hrest =>
      cases h
      exact ⟨rfl, .inr ⟨path, hrest⟩⟩
    · cases h

theorem eq_nil_of_parsePort {scheme : String} (h : parsePort scheme s = .ok (port, rest))
    (hs : '\\' ∉ s) : rest = [] := by
  obtain ⟨hdrop, hrest | ⟨path, rfl⟩⟩ := snd_of_parsePort h
  · exact hrest
  · refine absurd ((List.dropWhile_suffix Char.isDigit).subset ?_) hs
    rw [← hdrop]
    exact List.mem_cons_self

theorem mem_of_mem_breakAtPort {inBrackets : Bool} {s : List Char}
    (h : c ∈ (breakAtPort inBrackets s).2) : c ∈ s := by
  induction s generalizing inBrackets with
  | nil => exact h
  | cons d s ih =>
    unfold breakAtPort at h
    split at h
    · exact h
    · exact List.mem_cons_of_mem _ (ih h)

theorem mem_of_mem_breakAtUser? {s : List Char} (h : breakAtUser? s = some (user, rest))
    (hc : c ∈ rest) : c ∈ s := by
  unfold breakAtUser? at h
  split at h
  · cases h
    exact List.mem_reverse.1 ((List.takeWhile_prefix _).subset (List.mem_reverse.1 hc))
  · cases h

/-- The text behind the user of an authority; all of it if there is no user. -/
def behindUser (s : List Char) : List Char := (breakAtUser? s).elim s Prod.snd

theorem mem_of_mem_behindUser (h : c ∈ behindUser s) : c ∈ s := by
  unfold behindUser at h
  cases huser : breakAtUser? s with
  | none =>
    rw [huser] at h
    exact h
  | some found =>
    rw [huser] at h
    exact mem_of_mem_breakAtUser? huser h

/-- The authority of a user, from the text behind the user. -/
def parseServer (scheme : String) (user : Option (List Char)) (s : List Char) :
    Except UrlError (Authority × List Char) :=
  let special := (SchemeKind.ofScheme scheme).isSpecial
  let (username, password) := parseUser (user.getD [])
  let (host, port) := breakAtPort false s
  if host.isEmpty && (special || !port.isEmpty || username ≠ "" || password.isSome) then
    .error .emptyHost
  else do
    let host ← if special then parseHost host else parsePlainHost host
    let (port, rest) ← parsePort scheme (port.drop 1)
    return (⟨username, password, host, port⟩, rest)

/-- Before a path, an `@` with neither a user nor a host is an error of its own. Nothing else depends
on what follows. -/
theorem parseAuthority_eq (scheme : String) (atEnd : Bool) (s : List Char) :
    parseAuthority scheme atEnd s =
      if breakAtUser? s = some ([], []) ∧ atEnd = false then .error .emptyHost
      else parseServer scheme ((breakAtUser? s).map Prod.fst) (behindUser s) := by
  unfold parseAuthority parseServer behindUser
  rcases breakAtUser? s with _ | ⟨_ | ⟨c, user⟩, _ | ⟨d, rest⟩⟩
  all_goals cases atEnd <;> rfl

/-- Behind the user of a special URL are a host and a port, and what does not belong to the port is
left. -/
theorem exists_of_parseAuthority {scheme : String} {r : Authority × List Char}
    (hspecial : (SchemeKind.ofScheme scheme).isSpecial = true)
    (h : parseAuthority scheme atEnd s = .ok r) :
    ∃ host port, (breakAtPort false (behindUser s)).1 ≠ [] ∧
      parseHost (breakAtPort false (behindUser s)).1 = .ok host ∧
      parsePort scheme ((breakAtPort false (behindUser s)).2.drop 1) = .ok (port, r.2) := by
  rw [parseAuthority_eq] at h
  split at h
  · cases h
  · unfold parseServer at h
    dsimp only at h
    rw [hspecial] at h
    split at h
    · cases h
    · next hne =>
      obtain ⟨host, hhost, h⟩ := Except.bind_eq_ok.1 h
      obtain ⟨port, hport, h⟩ := Except.bind_eq_ok.1 h
      cases h
      exact ⟨host, port.1, by simpa using hne, hhost, hport⟩

/-- The authority of a text without backslashes leaves nothing of it. -/
theorem snd_eq_nil_of_parseAuthority {scheme : String} {r : Authority × List Char}
    (hspecial : (SchemeKind.ofScheme scheme).isSpecial = true)
    (h : parseAuthority scheme atEnd s = .ok r) (hs : '\\' ∉ s) : r.2 = [] := by
  obtain ⟨host, port, -, -, hport⟩ := exists_of_parseAuthority hspecial h
  refine eq_nil_of_parsePort hport fun hmem => hs (mem_of_mem_behindUser ?_)
  exact mem_of_mem_breakAtPort ((List.drop_suffix 1 _).subset hmem)

/-- What is an authority before a path is the same at the end of the URL. -/
theorem parseAuthority_at_end {scheme : String} {r : Authority × List Char}
    (h : parseAuthority scheme atEnd s = .ok r) : parseAuthority scheme true s = .ok r := by
  rw [parseAuthority_eq] at h ⊢
  split at h
  · cases h
  · rw [if_neg (by simp)]
    exact h

/-- Whether the authority is at the end of the URL decides nothing if it is one there. -/
theorem parseAuthority_before_path {s : List Char} (h : parseAuthority "http" true s = .ok r)
    (hs : '\\' ∉ s) : parseAuthority "http" false s = .ok r ∧ r.2 = [] := by
  have hspecial : (SchemeKind.ofScheme "http").isSpecial = true := by decide
  refine ⟨?_, snd_eq_nil_of_parseAuthority hspecial h hs⟩
  obtain ⟨-, -, hhost, -⟩ := exists_of_parseAuthority hspecial h
  have huser : breakAtUser? s ≠ some ([], []) := by
    intro huser
    rw [behindUser, huser] at hhost
    exact hhost rfl
  rw [parseAuthority_eq, if_neg fun hempty => huser hempty.1] at h ⊢
  exact h

/-! ## The path after a host -/

/-- A host ends at the first slash after it. -/
theorem parseHierarchy_host {host path : List Char} (hne : host ≠ [])
    (hhost : ∀ c ∈ host, isSlash .special c = false)
    (hpath : ∀ c ∈ path.head?, isSlash .special c = true) :
    parseHierarchy "http" atEnd ('/' :: '/' :: (host ++ path)) = do
      let r ← parseAuthority "http" (atEnd && path.isEmpty) host
      return (some r.1, parsePath .special (r.2 ++ path)) := by
  have hkind : SchemeKind.ofScheme "http" = .special := by decide
  have hslashes : ('/' :: '/' :: (host ++ path)).dropWhile (isSlash .special) = host ++ path := by
    cases host with
    | nil => exact absurd rfl hne
    | cons c host =>
      have hslash : isSlash .special '/' = true := by decide
      simp [hslash, hhost c List.mem_cons_self]
  have htake : path.takeWhile (!isSlash .special ·) = [] := by
    cases path with
    | nil => rfl
    | cons c path => simp [hpath c rfl]
  have hdrop : path.dropWhile (!isSlash .special ·) = path := by
    cases path with
    | nil => rfl
    | cons c path => simp [hpath c rfl]
  unfold parseHierarchy
  rw [hkind]
  dsimp only
  rw [hslashes, List.takeWhile_append_of_pos (by simpa using hhost),
    List.dropWhile_append_of_pos (by simpa using hhost), htake, hdrop, List.append_nil]

theorem not_isSlash_of_isSegmentChar (h : isSegmentChar c = true) : isSlash k c = false := by
  simp only [isSegmentChar, Bool.and_eq_true, decide_eq_true_eq] at h
  simp [isSlash, h.1.2, h.2]

theorem isPlain_of_isSegmentChar (h : isSegmentChar c = true) : isPlain c = true := by
  simp only [isSegmentChar, Bool.and_eq_true] at h
  exact h.1.1

theorem isPlain_of_mem_segments {segments : List (List Char)}
    (h : ∀ s ∈ segments, ∀ c ∈ s, isSegmentChar c = true) :
    ∀ c ∈ segments.flatMap ('/' :: ·), isPlain c = true := by
  intro c hc
  obtain ⟨s, hs, hc⟩ := List.mem_flatMap.1 hc
  rcases List.mem_cons.1 hc with rfl | hc
  · decide
  · exact isPlain_of_isSegmentChar (h s hs c hc)

/-- An encoded component is one segment. -/
theorem isSegmentChar_of_mem_encodeComponent {s : String} {c : Char}
    (h : c ∈ (Percent.encodeComponent s).toList) : isSegmentChar c = true :=
  forall_mem_encodeComponent (p := fun c => isSegmentChar c = true) (by decide) c h

/-- The authority of a base is the same with segments after it, which are the path. -/
theorem parseHierarchy_segments {host s : List Char} {rest : List (List Char)}
    (hbase : parseHierarchy "http" true ('/' :: '/' :: host) = .ok r) (hne : host ≠ [])
    (hhost : ∀ c ∈ host, isSegmentChar c = true)
    (hsegments : ∀ t ∈ s :: rest, ∀ c ∈ t, isSegmentChar c = true) :
    parseHierarchy "http" true ('/' :: '/' :: (host ++ (s :: rest).flatMap ('/' :: ·))) =
      .ok (r.1, .segments (resolveSegments .special [] (s :: rest))) := by
  have hslash : ∀ c ∈ host, isSlash .special c = false :=
    fun c hc => not_isSlash_of_isSegmentChar (hhost c hc)
  have hbackslash : '\\' ∉ host := fun hmem => absurd (hhost _ hmem) (by decide)
  rw [← List.append_nil host, parseHierarchy_host hne hslash (by simp)] at hbase
  obtain ⟨a, ha, hbase⟩ := Except.bind_eq_ok.1 hbase
  cases hbase
  obtain ⟨ha, hrest⟩ := parseAuthority_before_path ha hbackslash
  have hsplit : splitSegments .special (s ++ rest.flatMap ('/' :: ·)) = s :: rest :=
    splitSegments_flatMap fun t ht c hc => not_isSlash_of_isSegmentChar (hsegments t ht c hc)
  have hpath : parsePath .special (a.2 ++ '/' :: (s ++ rest.flatMap ('/' :: ·))) =
      .segments (resolveSegments .special [] (s :: rest)) := by
    rw [hrest, List.nil_append, parsePath, parseSegments, if_pos (by decide), hsplit]
  rw [parseHierarchy_host hne hslash (by simp [isSlash]), List.flatMap_cons, List.cons_append,
    List.isEmpty_cons, Bool.and_false, ha, ← hpath]
  rfl

/-- **Segments after a base.** Behind a base URL without a path, segments are the path. -/
theorem parse_host_segments {host : List Char} {segments : List (List Char)}
    (hbase : parse (String.ofList ("http://".toList ++ host)) = .ok base)
    (hhost : ∀ c ∈ host, isSegmentChar c = true) (hne : segments ≠ [])
    (hsegments : ∀ s ∈ segments, ∀ c ∈ s, isSegmentChar c = true) :
    parse (String.ofList ("http://".toList ++ (host ++ segments.flatMap ('/' :: ·)))) =
      .ok { base with path := .segments (resolveSegments .special [] segments) } := by
  have hplain : ∀ c ∈ host, isPlain c = true := fun c hc => isPlain_of_isSegmentChar (hhost c hc)
  have hpath := isPlain_of_mem_segments hsegments
  have hnonempty : host ≠ [] := by
    rintro rfl
    cases hbase
  obtain ⟨s, rest, rfl⟩ := List.exists_cons_of_ne_nil hne
  rw [parse_of_plain hplain] at hbase
  obtain ⟨r, hr, rfl⟩ := Except.map_eq_ok.1 hbase
  rw [parse_of_plain fun c hc => (List.mem_append.1 hc).elim (hplain c) (hpath c),
    parseHierarchy_segments hr hnonempty hhost hsegments]
  rfl

end ApiCli.Url

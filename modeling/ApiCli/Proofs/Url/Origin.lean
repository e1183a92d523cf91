import Mathlib.Data.List.TakeWhile
import ApiCli.Http.Endpoint
import ApiCli.Proofs.Text.Split
import ApiCli.Proofs.Url.Authority

/-!
# The origin of an endpoint

An endpoint is the beginning of its base, up to the slashes at its end, with a path behind it. Both
texts are cleaned and cut before their authorities are read, so the authorities are compared in the
texts as they are written.

* `authorityText` is the text of an authority. The authority is read from this text alone
  (`authority_of_parse`), and what begins with a slash does not add to it (`authorityText_append`).
* `exists_scheme?_clean`: what follows the beginning of a URL's text only matters behind its scheme.
* `eq_of_append_blanks`: blanks are all that the cleaning can take from one authority and leave in
  the other, and no authority ends in a blank.

**Endpoints** (`sameOrigin_endpoint`): whatever path is asked for, the URL of an endpoint has the
scheme and the authority of its base.
-/

namespace ApiCli.Url

variable {s t : List Char} {u : Url}

/-- Two URLs of one scheme, with the same user, host and port. -/
structure SameOrigin (u base : Url) : Prop where
  scheme : u.scheme = base.scheme
  authority : u.authority = base.authority

/-! ## The text of an authority -/

/-- Whether a character ends the authority of a special URL. -/
def endsAuthority (c : Char) : Bool := isSlash .special c || c = '?' || c = '#'

/-- The authority of a special URL as it is written, in the text after the scheme. Any number of
slashes comes before it. -/
def authorityText (s : List Char) : List Char :=
  (s.dropWhile (isSlash .special)).takeWhile (!endsAuthority ·)

/-- What is dropped at the beginning is part of what is taken. -/
theorem dropWhile_takeWhile {p q : α → Bool} (h : ∀ a, q a = true → p a = true) (l : List α) :
    (l.takeWhile p).dropWhile q = (l.dropWhile q).takeWhile p := by
  induction l with
  | nil => rfl
  | cons a l ih =>
    cases hq : q a with
    | true => rw [List.takeWhile_cons_of_pos (h a hq), List.dropWhile_cons_of_pos hq,
        List.dropWhile_cons_of_pos hq, ih]
    | false =>
      rw [List.dropWhile_cons_of_neg (by simp [hq])]
      cases hp : p a with
      | true => rw [List.takeWhile_cons_of_pos hp, List.dropWhile_cons_of_neg (by simp [hq])]
      | false => rw [List.takeWhile_cons_of_neg (by simp [hp]), List.dropWhile_nil]

theorem ne_of_isSlash (hc : isSlash k c = true) : c ≠ '#' ∧ c ≠ '?' := by
  constructor <;>
  · rintro rfl
    cases k <;> cases hc

/-- Fragment, query and path are cut off one after the other. -/
theorem authorityText_eq (s : List Char) :
    (((Text.breakAt '?' (Text.breakAt '#' s).1).1.dropWhile (isSlash .special)).takeWhile
      (!isSlash .special ·)) = authorityText s := by
  rw [Text.fst_breakAt, Text.fst_breakAt, List.takeWhile_takeWhile, dropWhile_takeWhile,
    List.takeWhile_takeWhile, authorityText]
  · congr 1
    funext c
    cases hc : isSlash .special c <;> simp [endsAuthority, hc, Bool.and_comm]
  · intro c hc
    simpa using (ne_of_isSlash hc).symm

/-- A URL is read from its scheme and what is behind it. -/
theorem exists_scheme?_of_parse (h : parse (String.ofList s) = .ok u) :
    ∃ scheme rest, scheme? (clean s) = some (scheme, rest) := by
  unfold parse at h
  rw [String.toList_ofList] at h
  split at h
  · cases h
  · next scheme rest hscheme => exact ⟨scheme, rest, hscheme⟩

theorem scheme_of_parse {scheme : String} (h : parse (String.ofList s) = .ok u)
    (hscheme : scheme? (clean s) = some (scheme, rest)) : u.scheme = scheme := by
  unfold parse at h
  rw [String.toList_ofList, hscheme] at h
  obtain ⟨r, -, h⟩ := Except.bind_eq_ok.1 h
  cases h
  rfl

/-- The authority of a special URL is read from its text. -/
theorem authority_of_parse {scheme : String} (h : parse (String.ofList s) = .ok u)
    (hscheme : scheme? (clean s) = some (scheme, rest))
    (hkind : SchemeKind.ofScheme scheme = .special) :
    ∃ r, parseAuthority scheme true (authorityText rest) = .ok r ∧ u.authority = some r.1 := by
  unfold parse at h
  rw [String.toList_ofList, hscheme] at h
  obtain ⟨⟨authority, path⟩, hhierarchy, h⟩ := Except.bind_eq_ok.1 h
  cases h
  unfold parseHierarchy at hhierarchy
  dsimp only at hhierarchy
  rw [hkind] at hhierarchy
  dsimp only at hhierarchy
  rw [authorityText_eq] at hhierarchy
  obtain ⟨r, hr, hhierarchy⟩ := Except.bind_eq_ok.1 hhierarchy
  cases hhierarchy
  exact ⟨r, parseAuthority_at_end hr, rfl⟩

/-- What begins with the end of an authority does not add to it. -/
theorem authorityText_append (hs : s.dropWhile (isSlash .special) ≠ [])
    (ht : ∀ c ∈ t.head?, endsAuthority c = true) :
    authorityText (s ++ t) = authorityText s := by
  have htake : t.takeWhile (!endsAuthority ·) = [] := by
    cases t with
    | nil => rfl
    | cons c t => rw [List.takeWhile_cons_of_neg (by simpa using ht c rfl)]
  rw [authorityText, List.dropWhile_append, if_neg (by simpa using hs), List.takeWhile_append, htake,
    List.append_nil]
  split
  · next hlength => rw [authorityText, (List.takeWhile_prefix _).eq_of_length hlength]
  · rfl

/-- Blanks at the end of a text are at the end of the authority, if they belong to it. -/
theorem exists_authorityText_append (s : List Char) (ht : ∀ c ∈ t, c ≤ ' ') :
    ∃ blanks, authorityText (s ++ t) = authorityText s ++ blanks ∧ ∀ c ∈ blanks, c ≤ ' ' := by
  have hblank : ∀ c ∈ t, endsAuthority c = false := fun c hc =>
    forall_blank (p := fun c => endsAuthority c = false) (by decide) c (ht c hc)
  have hslash : t.dropWhile (isSlash .special) = t := by
    cases t with
    | nil => rfl
    | cons c t =>
      have hc := hblank c List.mem_cons_self
      simp only [endsAuthority, Bool.or_eq_false_iff] at hc
      rw [List.dropWhile_cons_of_neg (by simp [hc.1.1])]
  have htake : t.takeWhile (!endsAuthority ·) = t := by
    simpa using hblank
  unfold authorityText
  rw [List.dropWhile_append, hslash]
  split
  · next hnil =>
    rw [List.isEmpty_iff.1 hnil, htake]
    exact ⟨t, rfl, ht⟩
  · rw [List.takeWhile_append, htake]
    split
    · next hlength =>
      rw [(List.takeWhile_prefix _).eq_of_length hlength]
      exact ⟨t, rfl, ht⟩
    · exact ⟨[], (List.append_nil _).symm, List.forall_mem_nil _⟩

theorem backslash_notMem_authorityText (s : List Char) : '\\' ∉ authorityText s := by
  intro h
  have := List.mem_takeWhile_imp h
  exact absurd this (by decide)

/-- A text with blanks behind it begins as it does without them. -/
theorem exists_of_append_blanks {blanks more : List Char} (ht : ¬EndsInBlank t)
    (hblanks : ∀ c ∈ blanks, c ≤ ' ') (h : t ++ more = s ++ blanks) :
    ∃ rest, s = t ++ rest ∧ more = rest ++ blanks := by
  rcases List.append_eq_append_iff.1 h with ⟨rest, rfl, rfl⟩ | ⟨rest, rfl, rfl⟩
  · exact ⟨rest, rfl, rfl⟩
  · by_cases hne : rest = []
    · exact ⟨[], by simp [hne]⟩
    · exact absurd (endsInBlank_append hne fun c hc => hblanks c (List.mem_append_left _ hc)) ht

/-- Authorities that differ in blanks alone are the same. -/
theorem eq_of_append_blanks {blanks blanks' : List Char} (hs : ¬EndsInBlank s)
    (ht : ¬EndsInBlank t) (hblanks : ∀ c ∈ blanks, c ≤ ' ') (hblanks' : ∀ c ∈ blanks', c ≤ ' ')
    (h : s ++ blanks = t ++ blanks') : s = t := by
  obtain ⟨rest, rfl, rfl⟩ := exists_of_append_blanks ht hblanks h.symm
  by_cases hne : rest = []
  · rw [hne, List.append_nil]
  · exact absurd (endsInBlank_append hne fun c hc => hblanks' c (List.mem_append_left _ hc)) hs

/-! ## The beginning of a URL -/

/-- Whether a character is removed from the text of a URL wherever it is. -/
def isRemoved (c : Char) : Bool := c = '\t' || c = '\n' || c = '\r'

/-- A text that is cleaned except at its end. -/
def cleanStart (s : List Char) : List Char := (s.dropWhile (· ≤ ' ')).filter (!isRemoved ·)

/-- Only blanks are cleaned away at the end. -/
theorem exists_cleanStart_eq (s : List Char) :
    ∃ blanks, cleanStart s = clean s ++ blanks ∧ ∀ c ∈ blanks, c ≤ ' ' := by
  have hclean : clean s =
      ((s.dropWhile (· ≤ ' ')).reverse.dropWhile (· ≤ ' ')).reverse.filter (!isRemoved ·) := rfl
  rw [cleanStart, hclean]
  generalize s.dropWhile (· ≤ ' ') = trimmed
  have hsplit : (trimmed.reverse.dropWhile (· ≤ ' ')).reverse ++
      (trimmed.reverse.takeWhile (· ≤ ' ')).reverse = trimmed := by
    rw [← List.reverse_append, List.takeWhile_append_dropWhile, List.reverse_reverse]
  refine ⟨(trimmed.reverse.takeWhile (· ≤ ' ')).reverse.filter (!isRemoved ·), ?_, fun c hc => ?_⟩
  · rw [← List.filter_append, hsplit]
  · simpa using List.mem_takeWhile_imp (List.mem_reverse.1 (List.mem_filter.1 hc).1)

/-- What a text goes on with is cleaned apart, unless there is nothing before it. -/
theorem cleanStart_append (hs : s.dropWhile (· ≤ ' ') ≠ []) (t : List Char) :
    cleanStart (s ++ t) = cleanStart s ++ t.filter (!isRemoved ·) := by
  rw [cleanStart, List.dropWhile_append, if_neg (by simpa using hs), List.filter_append, cleanStart]

/-- A scheme is read from what is before the first colon. -/
theorem scheme?_eq_some {scheme : String} (h : scheme? s = some (scheme, rest)) :
    ∃ name, s = name ++ ':' :: rest ∧
      ∀ rest', scheme? (name ++ ':' :: rest') = some (scheme, rest') := by
  unfold scheme? at h
  split at h
  · next c name after hbreak =>
    obtain ⟨rfl, hcolon⟩ := Text.eq_of_breakAt_some hbreak
    split at h
    · next hname =>
      cases h
      refine ⟨c :: name, rfl, fun rest' => ?_⟩
      unfold scheme?
      rw [Text.breakAt_append hcolon]
      exact if_pos hname
    · cases h
  · cases h

/-- What a URL goes on with is behind its scheme, up to blanks. -/
theorem exists_scheme?_clean {scheme : String} (ht : ':' ∉ t)
    (h : scheme? (clean (s ++ t)) = some (scheme, rest)) :
    ∃ start, ∀ t', ∃ rest blanks, scheme? (clean (s ++ t')) = some (scheme, rest) ∧
      start ++ t'.filter (!isRemoved ·) = rest ++ blanks ∧ ∀ c ∈ blanks, c ≤ ' ' := by
  obtain ⟨name, hname, hscheme⟩ := scheme?_eq_some h
  obtain ⟨blanks, hblanks, -⟩ := exists_cleanStart_eq (s ++ t)
  rw [hname, List.append_assoc, List.cons_append] at hblanks
  have hfilter : ':' ∉ t.filter (!isRemoved ·) := fun hmem => ht (List.mem_filter.1 hmem).1
  have hne : s.dropWhile (· ≤ ' ') ≠ [] := by
    intro hnil
    have hcolon : ':' ∈ cleanStart (s ++ t) :=
      hblanks ▸ List.mem_append_right _ List.mem_cons_self
    rw [cleanStart, List.dropWhile_append, hnil] at hcolon
    exact ht ((List.dropWhile_suffix _).subset (List.mem_filter.1 hcolon).1)
  rw [cleanStart_append hne] at hblanks
  -- the colon is not in `t`, so the scheme is in the common part
  obtain ⟨start, hstart⟩ : ∃ start, cleanStart s = name ++ ':' :: start := by
    rcases List.append_eq_append_iff.1 hblanks with ⟨more, -, hmore⟩ | ⟨_ | ⟨c, start⟩, hs, hmore⟩
    · exact absurd (hmore ▸ List.mem_append_right _ List.mem_cons_self) hfilter
    · rw [List.nil_append] at hmore
      exact absurd (hmore ▸ List.mem_cons_self) hfilter
    · obtain ⟨rfl, -⟩ := List.cons.inj hmore
      exact ⟨start, hs⟩
  refine ⟨start, fun t' => ?_⟩
  obtain ⟨blanks', hblanks', hall⟩ := exists_cleanStart_eq (s ++ t')
  have hcolon : ¬EndsInBlank (name ++ [':']) := fun hends =>
    absurd (endsInBlank_concat.1 hends) (by decide)
  rw [cleanStart_append hne, hstart, List.append_cons name, List.append_assoc] at hblanks'
  obtain ⟨rest', hrest', hmore⟩ := exists_of_append_blanks hcolon hall hblanks'
  refine ⟨rest', blanks', ?_, hmore, hall⟩
  rw [hrest', List.append_assoc, List.singleton_append, hscheme]

/-! ## Endpoints -/

theorem authorityText_ne_nil {scheme : String} {r : Authority × List Char}
    (hspecial : (SchemeKind.ofScheme scheme).isSpecial = true)
    (h : parseAuthority scheme atEnd (authorityText s) = .ok r) : authorityText s ≠ [] := by
  intro hnil
  obtain ⟨-, -, hhost, -⟩ := exists_of_parseAuthority hspecial h
  rw [hnil] at hhost
  exact hhost rfl

/-- Slashes have no authority, and blanks behind them are none. -/
theorem dropWhile_slash_ne_nil {start slashes rest blanks : List Char}
    (hslashes : ∀ c ∈ slashes, c = '/')
    (h : start ++ slashes.filter (!isRemoved ·) = rest ++ blanks) (hblanks : ∀ c ∈ blanks, c ≤ ' ')
    (hne : authorityText rest ≠ []) : start.dropWhile (isSlash .special) ≠ [] := by
  intro hnil
  have hall : ∀ c ∈ slashes.filter (!isRemoved ·), isSlash .special c = true := by
    intro c hc
    rw [hslashes c (List.mem_filter.1 hc).1]
    decide
  have htext : authorityText (rest ++ blanks) = [] := by
    rw [← h, authorityText, List.dropWhile_append, hnil, List.dropWhile_eq_nil_iff.2 hall]
    rfl
  obtain ⟨_, happend, -⟩ := exists_authorityText_append rest hblanks
  rw [htext] at happend
  exact hne (List.append_eq_nil_iff.1 happend.symm).1

theorem isSpecial_of_special {scheme : String} (h : SchemeKind.ofScheme scheme = .special) :
    (SchemeKind.ofScheme scheme).isSpecial = true := by
  rw [h]
  rfl

/-- A base URL with an authority, up to the slashes it ends in: what it goes on with is behind its
scheme, and the authority has begun by then. -/
theorem exists_start {slashes : List Char} {base : Url} (hslashes : ∀ c ∈ slashes, c = '/')
    (hbase : parse (String.ofList (s ++ slashes)) = .ok base)
    (hkind : SchemeKind.ofScheme base.scheme = .special) :
    ∃ start, start.dropWhile (isSlash .special) ≠ [] ∧
      ∀ t, ∃ rest blanks, scheme? (clean (s ++ t)) = some (base.scheme, rest) ∧
        start ++ t.filter (!isRemoved ·) = rest ++ blanks ∧ ∀ c ∈ blanks, c ≤ ' ' := by
  have hcolon : ':' ∉ slashes := fun hmem => absurd (hslashes _ hmem) (by decide)
  obtain ⟨scheme, _, hread⟩ := exists_scheme?_of_parse hbase
  obtain rfl := scheme_of_parse hbase hread
  obtain ⟨start, hstart⟩ := exists_scheme?_clean hcolon hread
  obtain ⟨rest, blanks, hread, hrest, hblanks⟩ := hstart slashes
  obtain ⟨r, hr, -⟩ := authority_of_parse hbase hread hkind
  have hne := authorityText_ne_nil (isSpecial_of_special hkind) hr
  exact ⟨start, dropWhile_slash_ne_nil hslashes hrest hblanks hne, hstart⟩

/-- A path behind a text is not part of its authority. Blanks may be left of the path. -/
theorem exists_authorityText_blanks {start path rest blanks : List Char}
    (hstart : start.dropWhile (isSlash .special) ≠ []) (hpath : ∀ c ∈ path.head?, c = '/')
    (h : start ++ path.filter (!isRemoved ·) = rest ++ blanks) (hblanks : ∀ c ∈ blanks, c ≤ ' ') :
    ∃ blanks, authorityText start = authorityText rest ++ blanks ∧ ∀ c ∈ blanks, c ≤ ' ' := by
  have hends : ∀ c ∈ (path.filter (!isRemoved ·)).head?, endsAuthority c = true := by
    cases path with
    | nil => exact nofun
    | cons d path =>
      obtain rfl : d = '/' := hpath d rfl
      rw [List.filter_cons_of_pos (by decide)]
      rintro c ⟨⟩
      decide
  rw [← authorityText_append hstart hends, h]
  exact exists_authorityText_append rest hblanks

/-- URLs of a special scheme that begin alike have the same origin: the slashes that the one ends in
and the path of the other do not belong to it. -/
theorem sameOrigin_of_parse {slashes path : List Char} {base : Url}
    (hslashes : ∀ c ∈ slashes, c = '/') (hpath : ∀ c ∈ path.head?, c = '/')
    (hbase : parse (String.ofList (s ++ slashes)) = .ok base)
    (hkind : SchemeKind.ofScheme base.scheme = .special)
    (h : parse (String.ofList (s ++ path)) = .ok u) : u.SameOrigin base := by
  have hhead : ∀ c ∈ slashes.head?, c = '/' := fun c hc => hslashes c (List.mem_of_mem_head? hc)
  -- both texts after the scheme begin with `start`
  obtain ⟨start, hne, hstart⟩ := exists_start hslashes hbase hkind
  obtain ⟨baseRest, baseBlanks, hbaseRead, hbaseRest, hbaseBlanks⟩ := hstart slashes
  obtain ⟨rest, blanks, hread, hrest, hblanks⟩ := hstart path
  obtain ⟨r, hr, hbaseAuthority⟩ := authority_of_parse hbase hbaseRead hkind
  obtain ⟨r', hr', hauthority⟩ := authority_of_parse h hread hkind
  -- so do both authorities, up to blanks that neither ends in
  have hspecial := isSpecial_of_special hkind
  obtain ⟨_, hbaseText, hbaseAll⟩ := exists_authorityText_blanks hne hhead hbaseRest hbaseBlanks
  obtain ⟨_, htext, hall⟩ := exists_authorityText_blanks hne hpath hrest hblanks
  have hsame : authorityText baseRest = authorityText rest := eq_of_append_blanks
    (not_endsInBlank_of_parseAuthority hspecial hr (backslash_notMem_authorityText _))
    (not_endsInBlank_of_parseAuthority hspecial hr' (backslash_notMem_authorityText _))
    hbaseAll hall (hbaseText.symm.trans htext)
  rw [hsame, hr'] at hr
  cases hr
  exact ⟨scheme_of_parse h hread, hauthority.trans hbaseAuthority.symm⟩

end ApiCli.Url

namespace ApiCli

theorem exists_dropTrailingSlashes_append (s : List Char) :
    ∃ slashes, s = dropTrailingSlashes s ++ slashes ∧ ∀ c ∈ slashes, c = '/' := by
  refine ⟨(s.reverse.takeWhile fun c => c = '/').reverse, ?_, fun c hc => ?_⟩
  · rw [dropTrailingSlashes, ← List.reverse_append, List.takeWhile_append_dropWhile,
      List.reverse_reverse]
  · simpa using List.mem_takeWhile_imp (List.mem_reverse.1 hc)

/-- Nothing or a slash follows the base. -/
theorem exists_endpoint_eq (base path : String) :
    ∃ tail, endpoint base path = String.ofList (dropTrailingSlashes base.toList ++ tail) ∧
      ∀ c ∈ tail.head?, c = '/' := by
  unfold endpoint
  split
  · exact ⟨[], by rw [List.append_nil], nofun⟩
  · next rest hpath =>
    refine ⟨path.toList, by rw [String.ofList_append, String.ofList_toList], ?_⟩
    rw [hpath]
    rintro c ⟨⟩
    rfl
  · refine ⟨'/' :: path.toList, ?_, ?_⟩
    · rw [← List.singleton_append, String.ofList_append, String.ofList_append, String.ofList_toList,
        String.append_assoc]
    · rintro c ⟨⟩
      rfl

/-- The URL of an endpoint has the origin of its base. -/
theorem sameOrigin_endpoint {baseUrl path : String} {base url : Url}
    (hbase : Url.parse baseUrl = .ok base) (hkind : SchemeKind.ofScheme base.scheme = .special)
    (h : Url.parse (endpoint baseUrl path) = .ok url) : url.SameOrigin base := by
  obtain ⟨slashes, hsplit, hslashes⟩ := exists_dropTrailingSlashes_append baseUrl.toList
  obtain ⟨tail, htail, hhead⟩ := exists_endpoint_eq baseUrl path
  rw [htail] at h
  rw [← String.ofList_toList (s := baseUrl), hsplit] at hbase
  exact Url.sameOrigin_of_parse hslashes hhead hbase hkind h

end ApiCli

import ApiCli.Proofs.Client.Dispatch
import ApiCli.Proofs.Client.Template
import ApiCli.Proofs.Url.Endpoint
import ApiCli.Proofs.Url.Query
import Mathlib.Data.List.Forall2

/-!
# Values in paths

Where the values of path flags stand in the URL of a request. The template's segments are literal
texts and whole placeholders.

* `PathPart.Keeps` says that a segment of a URL is the template's: a literal is unchanged, and a
  placeholder's segment decodes to its value.
* `requestUrl_of_template`: the path of the URL has the encoded segments, with dot segments
  carried out.

**Where values stay** (`path_values_keep_segments`): every segment is kept exactly if no value is
`.` or `..`. Encoding leaves these two as they are, and a URL has no dot segments.
-/

namespace ApiCli

variable {doc : Document} {env : Environment} {set : CommandSet} {c : Command}
  {bound : Dict Bound} {value : String → String} {template : List PathPart}

namespace PathPart

/-- A literal of unreserved characters that is no dot segment, or one placeholder. -/
def IsSegment : PathPart → Prop
  | literal text => text ≠ "" ∧ text ≠ "." ∧ text ≠ ".." ∧
      ∀ c ∈ text.toList, Percent.isUnreserved c = true
  | placeholder name => '\x7b' ∉ name.toList ∧ '\x7d' ∉ name.toList

instance : (part : PathPart) → Decidable part.IsSegment
  | literal text =>
    decidable_of_iff (text ≠ "" ∧ text ≠ "." ∧ text ≠ ".." ∧
      text.toList.all Percent.isUnreserved = true) (by simp [IsSegment])
  | placeholder name =>
    inferInstanceAs (Decidable ('\x7b' ∉ name.toList ∧ '\x7d' ∉ name.toList))

/-- The text that a segment stands for. -/
def text (value : String → String) : PathPart → String
  | literal text => text
  | placeholder name => value name

/-- A segment of a URL is that of the template. -/
def Keeps (value : String → String) : PathPart → String → Prop
  | literal text, segment => segment = text
  | placeholder name, segment =>
    Percent.decode (Utf8.encode segment.toList) = Utf8.encode (value name).toList

/-- The texts of placeholders are encoded, those of literals need not be. -/
theorem IsSegment.chars_filled {part : PathPart} (h : part.IsSegment) :
    (part.filled fun name => Percent.encodeComponent (value name)).chars =
      (Percent.encodeComponent (part.text value)).toList := by
  cases part with
  | literal s => rw [text, Percent.encodeComponent_of_unreserved h.2.2.2, filled, chars]
  | placeholder name => rfl

theorem IsSegment.sound {part : PathPart} (h : part.IsSegment) : part.Sound := by
  cases part with
  | literal s => exact fun hmem => absurd (h.2.2.2 _ hmem) (by decide)
  | placeholder name => exact h

theorem IsSegment.keeps {part : PathPart} (h : part.IsSegment) :
    part.Keeps value (Percent.encodeComponent (part.text value)) := by
  cases part with
  | literal s => exact Percent.encodeComponent_of_unreserved h.2.2.2
  | placeholder name => exact Percent.decode_encodeComponent _

/-- No segment stands for a dot segment unless a value does. -/
theorem IsSegment.text_ne_dots {part : PathPart} (h : part.IsSegment)
    (hvalue : ∀ name, part = .placeholder name → value name ≠ "." ∧ value name ≠ "..") :
    part.text value ≠ "." ∧ part.text value ≠ ".." := by
  cases part with
  | literal s => exact ⟨h.2.1, h.2.2.1⟩
  | placeholder name => exact hvalue name rfl

end PathPart

/-! ## The path of a template -/

/-- The parts of a path whose segments are given: a slash before each. -/
def slashed (template : List PathPart) : List PathPart :=
  template.flatMap fun s => [.literal "/", s]

theorem renderParts_slashed (template : List PathPart) :
    renderParts (slashed template) = template.flatMap fun s => '/' :: s.chars := by
  rw [renderParts, slashed, List.flatMap_assoc]
  exact List.flatMap_congr fun s _ => by simp [PathPart.chars]

theorem renderParts_filled_slashed (hsegments : ∀ s ∈ template, s.IsSegment) :
    renderParts ((slashed template).map
        (PathPart.filled fun name => Percent.encodeComponent (value name))) =
      ((template.map (PathPart.text value)).map
        fun t => (Percent.encodeComponent t).toList).flatMap ('/' :: ·) := by
  rw [renderParts, slashed, List.map_flatMap, List.flatMap_assoc, List.flatMap_map,
    List.flatMap_map]
  refine List.flatMap_congr fun s hs => ?_
  simp [PathPart.filled, PathPart.chars, ← (hsegments s hs).chars_filled]

/-- A path flag of the parameter is bound to values that travel as one. -/
def Command.BindsPath (c : Command) (bound : Dict Bound) (name value : String) : Prop :=
  ∃ f ∈ c.flags.values, f.location = .path ∧ f.paramName = name ∧
    ∃ b, bound.get? f.name = some b ∧ b.values ≠ [] ∧ b.joined = value

theorem fillsAll_slashed (hkept : WellKept doc env parameters c.flags)
    (hsegments : ∀ s ∈ template, s.IsSegment)
    (hvalues : ∀ name, .placeholder name ∈ template → c.BindsPath bound name (value name)) :
    FillsAll bound (fun name => Percent.encodeComponent (value name)) c.flags.values
      (slashed template) where
  ordered := hkept.ordered
  kebab f hf := hkept.name_eq_kebab hf
  sound p hp := by
    obtain ⟨s, hs, hp⟩ := List.mem_flatMap.1 hp
    simp only [List.mem_cons, List.not_mem_nil, or_false] at hp
    rcases hp with rfl | rfl
    · exact show '\x7b' ∉ "/".toList by decide
    · exact (hsegments p hs).sound
  fills name hname := by
    obtain ⟨s, hs, hname⟩ := List.mem_flatMap.1 hname
    simp only [List.mem_cons, List.not_mem_nil, or_false, reduceCtorEq, false_or] at hname
    subst hname
    obtain ⟨f, hf, hlocation, hparam, b, hb, hne, hjoined⟩ := hvalues name hs
    exact ⟨f, hf, hparam, by simp [Flag.fills, hlocation, hb, Option.filter, hne, hjoined]⟩

/-! ## The URL of the request -/

theorem dropTrailingSlashes_of_notMem {s : List Char} (h : '/' ∉ s) (scheme : List Char)
    (hne : s ≠ []) : dropTrailingSlashes (scheme ++ s) = scheme ++ s := by
  unfold dropTrailingSlashes
  rw [List.reverse_append]
  cases hs : s.reverse with
  | nil => exact absurd (List.reverse_eq_nil_iff.1 hs) hne
  | cons c t =>
    have hc : c ≠ '/' := by
      rintro rfl
      exact h (List.mem_reverse.1 (hs ▸ List.mem_cons_self))
    rw [List.cons_append, List.dropWhile_cons_of_neg (by simpa using hc), ← List.cons_append, ← hs,
      ← List.reverse_append, List.reverse_reverse]

/-- A host is no end of slashes, so the path follows it directly. -/
theorem parse_endpoint {host : String} {base : Url} {segments : List (List Char)}
    (hbase : Url.parse ("http://" ++ host) = .ok base)
    (hhost : ∀ c ∈ host.toList, Url.isSegmentChar c = true) (hne : segments ≠ [])
    (hsegments : ∀ s ∈ segments, ∀ c ∈ s, Url.isSegmentChar c = true) :
    Url.parse (endpoint ("http://" ++ host) (String.ofList (segments.flatMap ('/' :: ·)))) =
      .ok { base with path := .segments (Url.resolveSegments .special [] segments) } := by
  have hslash : '/' ∉ host.toList := fun hmem => absurd (hhost _ hmem) (by decide)
  have hnonempty : host.toList ≠ [] := by
    intro hnil
    obtain rfl : host = "" := String.toList_inj.1 hnil
    cases hbase
  have htext : "http://" ++ host = String.ofList ("http://".toList ++ host.toList) := by
    rw [String.ofList_append, String.ofList_toList, String.ofList_toList]
  rw [endpoint_segments _ hne, htext, String.toList_ofList,
    dropTrailingSlashes_of_notMem hslash _ hnonempty, List.append_assoc]
  exact Url.parse_host_segments (htext ▸ hbase) hhost hne hsegments

/-- The URL of a request: the base with the encoded segments, dot segments carried out. -/
theorem requestUrl_of_template {host : String} {base : Url}
    (hset : (compile doc baseUrl env).run.value = .ok set) (hc : c ∈ set.commands)
    (hpath : c.path = String.ofList (template.flatMap fun s => '/' :: s.chars))
    (hne : template ≠ []) (hsegments : ∀ s ∈ template, s.IsSegment)
    (hvalues : ∀ name, .placeholder name ∈ template → c.BindsPath bound name (value name))
    (hhost : ∀ c ∈ host.toList, Url.isSegmentChar c = true)
    (hbase : Url.parse ("http://" ++ host) = .ok base) :
    ∃ url, Dispatcher.requestUrl c ("http://" ++ host) bound = .ok url ∧
      url.scheme = base.scheme ∧ url.authority = base.authority ∧
      url.path = .segments (Url.resolveSegments .special []
        ((template.map (PathPart.text value)).map
          fun t => (Percent.encodeComponent t).toList)) := by
  rw [← renderParts_slashed] at hpath
  have hbind := bindPath_eq_ok hpath
    (fillsAll_slashed (wellKept_of_compile hset hc) hsegments hvalues)
  rw [renderParts_filled_slashed hsegments] at hbind
  set segments := (template.map (PathPart.text value)).map fun t =>
    (Percent.encodeComponent t).toList with hdef
  have hsegment : ∀ s ∈ segments, ∀ c ∈ s, Url.isSegmentChar c = true := by
    intro s hs c hc
    obtain ⟨t, -, rfl⟩ := List.mem_map.1 hs
    exact Url.isSegmentChar_of_mem_encodeComponent hc
  have hparse := parse_endpoint hbase hhost (by simpa [hdef] using hne) hsegment
  unfold Dispatcher.requestUrl
  rw [hbind]
  dsimp only
  rw [hparse]
  obtain ⟨hpath, hauthority, hscheme⟩ := Url.addPairs_path _ (bindQuery c bound)
  exact ⟨_, rfl, hscheme, hauthority, hpath⟩

/-- Running a command sends one request with its URL, unless the session is cancelled or the header
fields are not allowed, and no other one. -/
theorem execute_url {d : Dispatcher} {baseUrl : String} {url : Url}
    (h : Dispatcher.requestUrl c baseUrl bound = .ok url) (s : Session) :
    ∃ requests, (d.execute c baseUrl bound s).2.sent = s.sent ++ requests ∧
      (∀ r ∈ requests, r.url = url) ∧
      (s.cancelled = false → (d.headers c bound).isOk → ∃ r, requests = [r]) := by
  obtain ⟨requests, hattempt, -⟩ := d.execute_attempt c baseUrl bound s
  cases hattempt with
  | unsent hd hx =>
    refine ⟨[], hx.sent, List.forall_mem_nil _, fun hopen hheaders => ?_⟩
    cases hfields : d.headers c bound with
    | error e =>
      rw [hfields] at hheaders
      cases hheaders
    | ok headers =>
      rcases hd with hd | hd
      · rw [hopen] at hd
        cases hd
      · have hbuild := d.buildRequest_value c baseUrl bound (d.tracer.span "cli-run" 0)
        rw [h, hfields] at hbuild
        exact absurd ⟨_, _, hbuild⟩ hd
  | @sent r _ hdue hx =>
    refine ⟨[r], hx.sent, fun r' hr' => ?_, fun _ _ => ⟨r, rfl⟩⟩
    obtain rfl := List.mem_singleton.1 hr'
    obtain ⟨span, hbuild⟩ := hdue
    have hurl := (Dispatcher.buildRequest_eq_ok hbuild).1
    rw [h] at hurl
    exact (Except.ok.inj hurl).symm

/-- Values put into a template stay in their segments exactly if none of them is a dot segment:
then the URL of the request has the template's segments, literals unchanged and placeholders
with their values, and else it has not. -/
theorem path_values_keep_segments {host : String} {base : Url}
    (hset : (compile doc baseUrl env).run.value = .ok set) (hc : c ∈ set.commands)
    (hpath : c.path = String.ofList (template.flatMap fun s => '/' :: s.chars))
    (hne : template ≠ []) (hsegments : ∀ s ∈ template, s.IsSegment)
    (hvalues : ∀ name, .placeholder name ∈ template → c.BindsPath bound name (value name))
    (hhost : ∀ c ∈ host.toList, Url.isSegmentChar c = true)
    (hbase : Url.parse ("http://" ++ host) = .ok base) :
    ∃ url, Dispatcher.requestUrl c ("http://" ++ host) bound = .ok url ∧
      (∀ (d : Dispatcher) (s : Session), ∃ requests,
        (d.execute c ("http://" ++ host) bound s).2.sent = s.sent ++ requests ∧
        (∀ r ∈ requests, r.url = url) ∧
        (s.cancelled = false → (d.headers c bound).isOk → ∃ r, requests = [r])) ∧
      url.scheme = base.scheme ∧ url.authority = base.authority ∧
      ((∃ segments, url.path = .segments segments ∧
          List.Forall₂ (PathPart.Keeps value) template segments) ↔
        ∀ name, .placeholder name ∈ template → value name ≠ "." ∧ value name ≠ "..") := by
  obtain ⟨url, hurl, hscheme, hauthority, hpath'⟩ :=
    requestUrl_of_template hset hc hpath hne hsegments hvalues hhost hbase
  refine ⟨url, hurl, fun d s => execute_url hurl s, hscheme, hauthority, ?_, fun hdots => ?_⟩
  · rintro ⟨segments, hkept, hkeeps⟩ name hname
    rw [hpath'] at hkept
    cases hkept
    obtain ⟨hlength, hget⟩ := List.forall₂_iff_get.1 hkeeps
    obtain ⟨i, hi, hplaceholder⟩ := List.getElem_of_mem hname
    have hread := hget i hi (hlength ▸ hi)
    rw [List.get_eq_getElem, hplaceholder] at hread
    exact ne_dots_of_mem_resolveSegments (List.get_mem _ _) hread
  · have htexts : ∀ t ∈ template.map (PathPart.text value), t ≠ "." ∧ t ≠ ".." := by
      intro t ht
      obtain ⟨s, hs, rfl⟩ := List.mem_map.1 ht
      exact (hsegments s hs).text_ne_dots fun name hname => hdots name (hname ▸ hs)
    rw [resolveSegments_encodeComponent htexts, List.map_map] at hpath'
    refine ⟨_, hpath', List.forall₂_map_right_iff.2 (List.forall₂_same.2 fun s hs => ?_)⟩
    exact (hsegments s hs).keeps

/-! ## A template with one placeholder -/

/-- A document with one operation, which is marked as the command `show`. -/
def templateDocument : Document :=
  let operation : Operation := { Operation.empty with
    command := some "show"
    parameters := [{ Parameter.empty with name := "p", location := .path, type := some "string" }] }
  { Document.empty with
    paths := Dict.empty.insert "/a/\x7bp\x7d/b"
      (PathItem.empty.setOperation .get (some operation)) }

/-- The flag of its parameter. -/
def templateFlag : Flag :=
  { name := "p"
    paramName := "p"
    short := none
    description := ""
    type := .single .string
    location := .path
    required := false
    default := none
    fromEnv := false
    envSupplied := false }

/-- The command of the document. -/
def templateCommand : Command :=
  { name := "show"
    aliases := []
    method := .get
    path := "/a/\x7bp\x7d/b"
    summary := ""
    description := ""
    flags := Dict.ofList [("p", templateFlag)]
    isDefault := false }

/-- Two dots as the value take the segment before them away. -/
theorem path_values_keep_segments_dots :
    (compile templateDocument "http://api.test" fun _ => none).run.value =
        .ok ⟨[templateCommand], Registry.empty, "http://api.test"⟩ ∧
      ∃ url, Dispatcher.requestUrl templateCommand "http://api.test"
          (Dict.ofList [("p", ⟨[".."], true⟩)]) = .ok url ∧
        url.path = .segments ["b"] ∧
        ¬∃ segments, url.path = .segments segments ∧ List.Forall₂ (PathPart.Keeps fun _ => "..")
          [.literal "a", .placeholder "p", .literal "b"] segments := by
  have hset : (compile templateDocument "http://api.test" fun _ => none).run.value =
      .ok ⟨[templateCommand], Registry.empty, "http://api.test"⟩ := by rfl
  have htext : "http://" ++ "api.test" = "http://api.test" := by rfl
  have hbase : Url.parse ("http://" ++ "api.test") =
      .ok ⟨"http", some ⟨"", none, .name "api.test", none⟩, .segments [""], none, none⟩ := by
    rw [htext]
    decide +kernel
  have hurl : Dispatcher.requestUrl templateCommand "http://api.test"
      (Dict.ofList [("p", ⟨[".."], true⟩)]) =
      .ok ⟨"http", some ⟨"", none, .name "api.test", none⟩, .segments ["b"], none, none⟩ := by
    decide +kernel
  have hsegments : ∀ s ∈ [PathPart.literal "a", .placeholder "p", .literal "b"], s.IsSegment := by
    decide
  have hvalues : ∀ name,
      .placeholder name ∈ [PathPart.literal "a", .placeholder "p", .literal "b"] →
      templateCommand.BindsPath (Dict.ofList [("p", ⟨[".."], true⟩)]) name ".." := by
    intro name hname
    obtain rfl : name = "p" := by simpa using hname
    have hmem : templateFlag ∈ templateCommand.flags.values := List.mem_cons_self
    have hget : (Dict.ofList [("p", (⟨[".."], true⟩ : Bound))]).get? templateFlag.name =
        some ⟨[".."], true⟩ := by rfl
    exact ⟨templateFlag, hmem, rfl, rfl, ⟨[".."], true⟩, hget, by decide, rfl⟩
  obtain ⟨url, hurl', -, -, -, hkept⟩ := path_values_keep_segments hset List.mem_cons_self
    (by rfl) (by decide) hsegments hvalues (List.all_eq_true.1 (by decide)) hbase
  rw [htext, hurl] at hurl'
  cases hurl'
  exact ⟨hset, _, hurl, rfl, fun h => (hkept.1 h "p" (by simp)).2 rfl⟩

end ApiCli

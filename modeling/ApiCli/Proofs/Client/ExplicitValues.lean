import ApiCli.Proofs.Client.Substitution
import ApiCli.Proofs.Client.Travel
import ApiCli.Proofs.Url.Endpoint
import ApiCli.Proofs.Url.Query

/-!
# Explicit values

What a caller binds to a flag in the path, in the query or in the header fields is in the request
that a command sends, in the place of the flag's location.

* `Segmented` and `PathPart.sent`: the rows of parts that are the segments of a template, and the
  text of a part in a URL.
* `Request.HoldsPath`: the URL is that of the template with the texts of the flags, and has the
  template's segments at the end of its path.
* `Flag.Replaced`: a later header flag with the same field travels as well.

**Explicit values** (`explicit_values_travel`): a path value is at every placeholder of its
parameter, a query value is a pair of the query, and a header value is the field's value unless
something else replaces it there.
-/

namespace ApiCli

variable {doc : Document} {env : Environment} {set : CommandSet} {c : Command} {baseUrl : String}
  {bound : Dict Bound} {f : Flag} {b : Bound} {r : Request}

/-- A literal does not go beyond the segment that it is in. -/
def PathPart.WithinSegment : PathPart → Prop
  | literal s => ∀ c ∈ s.toList, Url.isSegmentChar c = true
  | placeholder _ => True

instance : (part : PathPart) → Decidable part.WithinSegment
  | .literal s =>
    decidable_of_iff (s.toList.all Url.isSegmentChar = true) (by simp [PathPart.WithinSegment])
  | .placeholder _ => inferInstanceAs (Decidable True)

/-- The segments of a template are rows of parts. Each row follows a slash. -/
structure Segmented (template : List PathPart) (rows : List (List PathPart)) : Prop where
  parts : template = rows.flatMap (.literal "/" :: ·)
  within : ∀ row ∈ rows, ∀ part ∈ row, part.WithinSegment

instance (template : List PathPart) (rows : List (List PathPart)) :
    Decidable (Segmented template rows) :=
  decidable_of_iff (template = rows.flatMap (.literal "/" :: ·) ∧
      ∀ row ∈ rows, ∀ part ∈ row, part.WithinSegment)
    ⟨fun ⟨hparts, hwithin⟩ => ⟨hparts, hwithin⟩, fun ⟨hparts, hwithin⟩ => ⟨hparts, hwithin⟩⟩

/-- The texts of segments with their placeholders replaced. -/
def filledSegments (texts : String → String) (rows : List (List PathPart)) : List (List Char) :=
  rows.map fun row => renderParts (row.map (PathPart.filled texts))

/-- The text of a part in the URL of a request. Literals are encoded as it is done in paths, and
placeholders have their texts. -/
def PathPart.sent (texts : String → String) : PathPart → String
  | literal s => Url.encodePart Url.inPathSet s.toList
  | placeholder name => texts name

/-- The URL of a request is that of the template with the texts of the flags in the place of the
placeholders, and with the pairs of the query. Below a base that has neither query nor fragment, the
segments of the template from any one on are the last ones of its path, as long as none of them has
become a dot segment. -/
structure Request.HoldsPath (r : Request) (c : Command) (baseUrl : String) (bound : Dict Bound)
    (template : List PathPart) : Prop where
  filled : ∃ url, Url.parse (endpoint baseUrl
      (String.ofList (renderParts (template.map (PathPart.filled (c.pathText bound)))))) = .ok url ∧
    r.url = url.addPairs (bindQuery c bound)
  segments : ∀ front rows base, Segmented template (front ++ rows) → rows ≠ [] →
    Url.parse baseUrl = .ok base → SchemeKind.ofScheme base.scheme = .special →
    '#' ∉ baseUrl.toList → '?' ∉ baseUrl.toList →
    (∀ t ∈ filledSegments (c.pathText bound) rows, Url.SegmentKind.ofSegment t = .plain) →
    ∃ before, r.url.path = .segments
      (before ++ rows.map fun row => String.join (row.map (PathPart.sent (c.pathText bound))))

/-- A header flag of the same field and a later name travels. -/
def Flag.Replaced (f : Flag) (c : Command) (bound : Dict Bound) : Prop :=
  ∃ g ∈ c.flags.values, f.name < g.name ∧ g.location = .header ∧
    Headers.name? g.paramName = Headers.name? f.paramName ∧
    ∃ b, bound.get? g.name = some b ∧ isSendable g b = true

/-! ## Flags that travel -/

theorem WellKept.distinct {parameters : List Parameter} {flags : Dict Flag}
    (h : WellKept doc env parameters flags) :
    flags.values.Pairwise fun f g => f.paramName ≠ g.paramName := by
  refine h.ordered.imp_of_mem fun {f g} hf hg hlt heq => ?_
  have hsame : f.name = g.name := by
    rw [h.name_eq_kebab hf, h.name_eq_kebab hg, heq]
  exact String.lt_irrefl _ (hsame ▸ hlt)

theorem fills_of_explicit (hlocation : f.location = .path) (hbound : bound.get? f.name = some b)
    (hvalues : b.values ≠ []) : f.fills bound = some (Percent.encodeComponent b.joined) := by
  have hfilled : (!b.values.isEmpty) = true := by simpa using hvalues
  rw [Flag.fills, if_pos hlocation, hbound, Option.filter_some, if_pos hfilled]
  rfl

theorem mem_sendable {location : Location} :
    (f, b) ∈ sendable c bound location ↔ f ∈ c.flags.values ∧ f.location = location ∧
      bound.get? f.name = some b ∧ isSendable f b = true := by
  simp only [sendable, List.mem_filterMap, Option.ite_none_right_eq_some, Option.map_eq_some_iff,
    Option.filter_eq_some_iff, Prod.mk.injEq]
  constructor
  · rintro ⟨g, hg, hlocation, b', ⟨hbound, hsendable⟩, rfl, rfl⟩
    exact ⟨hg, hlocation, hbound, hsendable⟩
  · rintro ⟨hf, hlocation, hbound, hsendable⟩
    exact ⟨f, hf, hlocation, b, ⟨hbound, hsendable⟩, rfl, rfl⟩

/-- The flags that travel keep the order of the flags. -/
theorem sendable_ordered {parameters : List Parameter}
    (h : WellKept doc env parameters c.flags) (bound : Dict Bound) (location : Location) :
    (sendable c bound location).Pairwise fun s t => s.1.name < t.1.name := by
  refine List.Pairwise.filterMap _ (fun f g hlt s hs t ht => ?_) h.ordered
  have hname {f : Flag} {s : Flag × Bound} (hs : (if f.location = location then
      ((bound.get? f.name).filter (isSendable f)).map fun b => (f, b) else none) = some s) :
      s.1 = f := by
    split at hs
    · obtain ⟨b, -, rfl⟩ := Option.map_eq_some_iff.1 hs
      rfl
    · cases hs
  rw [hname hs, hname ht]
  exact hlt

/-- Unless it is replaced, the value of a header flag prevails in its field. -/
theorem lastValue?_headerPairs {parameters : List Parameter}
    (h : WellKept doc env parameters c.flags) (hmem : (f, b) ∈ sendable c bound .header)
    (hkey : Headers.name? f.paramName = some key) (hreplaced : ¬f.Replaced c bound) :
    lastValue? (headerPairs c bound) key = some b.joined := by
  have hordered := sendable_ordered h bound .header
  obtain ⟨before, after, hsplit⟩ := List.append_of_mem hmem
  rw [hsplit, List.pairwise_append, List.pairwise_cons] at hordered
  obtain ⟨-, ⟨hlater, -⟩, -⟩ := hordered
  rw [headerPairs, hsplit, List.map_append, List.map_cons]
  refine lastValue?_append_cons hkey fun pair hpair hsame => ?_
  obtain ⟨s, hs, rfl⟩ := List.mem_map.1 hpair
  have hsend : (s.1, s.2) ∈ sendable c bound .header := by
    rw [hsplit]
    exact List.mem_append_right _ (List.mem_cons_of_mem _ hs)
  obtain ⟨hg, hlocation, hbound, hsendable⟩ := mem_sendable.1 hsend
  exact hreplaced ⟨s.1, hg, hlater s hs, hlocation, hsame.trans hkey.symm, s.2, hbound, hsendable⟩

/-! ## Segments of a template -/

/-- What stands at a placeholder is an encoded component. -/
theorem exists_pathText_eq (c : Command) (bound : Dict Bound) (name : String) :
    ∃ value, c.pathText bound name = Percent.encodeComponent value := by
  unfold Command.pathText
  cases htext : textOf? bound c.flags.values name with
  | none => exact ⟨"", rfl⟩
  | some text =>
    obtain ⟨f, -, hf⟩ := List.exists_of_findSome?_eq_some htext
    obtain ⟨-, hfill⟩ := Option.ite_none_right_eq_some.1 hf
    rw [Flag.fills, Option.ite_none_right_eq_some, Option.map_eq_some_iff] at hfill
    obtain ⟨-, b, -, rfl⟩ := hfill
    exact ⟨b.joined, rfl⟩

variable {template : List PathPart} {rows : List (List PathPart)}

section

variable {texts : String → String}
  (htexts : ∀ name, ∃ value, texts name = Percent.encodeComponent value)
include htexts

theorem PathPart.encodePart_filled (part : PathPart) :
    Url.encodePart Url.inPathSet (part.filled texts).chars = part.sent texts := by
  cases part with
  | literal s => rfl
  | placeholder name =>
    obtain ⟨value, hvalue⟩ := htexts name
    rw [filled, chars, sent, hvalue, encodePart_encodeComponent]

theorem encodePart_renderParts (row : List PathPart) :
    Url.encodePart Url.inPathSet (renderParts (row.map (PathPart.filled texts))) =
      String.join (row.map (PathPart.sent texts)) := by
  induction row with
  | nil => rfl
  | cons part row ih =>
    rw [List.map_cons, renderParts, List.flatMap_cons, ← renderParts, encodePart_append, ih,
      part.encodePart_filled htexts, List.map_cons, String.join_cons]

theorem map_encodePart_filledSegments (rows : List (List PathPart)) :
    (filledSegments texts rows).map (Url.encodePart Url.inPathSet) =
      rows.map fun row => String.join (row.map (PathPart.sent texts)) := by
  rw [filledSegments, List.map_map]
  exact List.map_congr_left fun row _ => encodePart_renderParts htexts row

theorem Segmented.isSegmentChar (h : Segmented template rows) :
    ∀ t ∈ filledSegments texts rows, ∀ c ∈ t, Url.isSegmentChar c = true := by
  intro t ht c hc
  obtain ⟨row, hrow, rfl⟩ := List.mem_map.1 ht
  obtain ⟨_, hpart, hc⟩ := List.mem_flatMap.1 hc
  obtain ⟨part, hmem, rfl⟩ := List.mem_map.1 hpart
  cases part with
  | literal s => exact h.within row hrow _ hmem c hc
  | placeholder name =>
    obtain ⟨value, hvalue⟩ := htexts name
    rw [PathPart.filled, PathPart.chars, hvalue] at hc
    exact Url.isSegmentChar_of_mem_encodeComponent hc

end

theorem Segmented.renderParts_filled (h : Segmented template rows) (texts : String → String) :
    renderParts (template.map (PathPart.filled texts)) =
      (filledSegments texts rows).flatMap ('/' :: ·) := by
  rw [h.parts, filledSegments, renderParts, List.map_flatMap, List.flatMap_assoc, List.flatMap_map]
  refine List.flatMap_congr fun row _ => ?_
  rw [List.map_cons, List.flatMap_cons, renderParts]
  rfl

/-! ## The request -/

theorem pathText_of_explicit (hkept : WellKept doc env parameters c.flags)
    (hf : f ∈ c.flags.values) (hlocation : f.location = .path)
    (hbound : bound.get? f.name = some b) (hvalues : b.values ≠ []) :
    c.pathText bound f.paramName = Percent.encodeComponent b.joined := by
  rw [Command.pathText, textOf?_of_mem hkept.distinct hf,
    fills_of_explicit hlocation hbound hvalues, Option.getD_some]

theorem holdsPath_of_requestUrl
    (hurl : Dispatcher.requestUrl c baseUrl bound = .ok r.url)
    (hpath : c.path = String.ofList (renderParts template)) (hsound : ∀ p ∈ template, p.Sound)
    (hbraces : BraceFree c.flags.values) : r.HoldsPath c baseUrl bound template := by
  obtain ⟨path, url, hbind, hparse, hquery⟩ := Dispatcher.requestUrl_eq_ok hurl
  obtain rfl := texts_of_bindPath hpath hsound hbraces hbind
  refine ⟨⟨url, hparse, hquery⟩, ?_⟩
  intro front rows base hrows hne hbase hkind hhash hquestion hplain
  have htexts := exists_pathText_eq c bound
  have hall : filledSegments (c.pathText bound) (front ++ rows) =
      filledSegments (c.pathText bound) front ++ filledSegments (c.pathText bound) rows :=
    List.map_append
  have hchars := hrows.isSegmentChar htexts
  rw [hall] at hchars
  rw [hrows.renderParts_filled, hall] at hparse
  obtain ⟨before, hbefore⟩ := exists_path_endpoint hbase hkind hhash hquestion
  have hrest : filledSegments (c.pathText bound) rows ≠ [] := mt List.map_eq_nil_iff.1 hne
  have hlast := hbefore _ _ hrest hchars hplain url hparse
  rw [map_encodePart_filledSegments htexts] at hlast
  rw [hquery, (Url.addPairs_path url _).1]
  exact ⟨_, hlast⟩

/-- Values that a caller binds to a flag are in a request that is sent, in the place of the flag's
location: in the path, in the query or in a field. No flag is one of the body. -/
theorem explicit_values_travel {d : Dispatcher} {s : Session} {requests : List Request}
    (hset : (compile doc baseUrl env).run.value = .ok set) (hc : c ∈ set.commands)
    (hf : f ∈ c.flags.values) (hbound : bound.get? f.name = some b) (hexplicit : b.isExplicit = true)
    (hvalues : b.values ≠ [])
    (hsent : (d.execute c target bound s).2.sent = s.sent ++ requests) (hr : r ∈ requests) :
    f.location.isBody = false ∧
      (f.location = .path → c.pathText bound f.paramName = Percent.encodeComponent b.joined ∧
        ∀ template, c.path = String.ofList (renderParts template) → (∀ p ∈ template, p.Sound) →
          BraceFree c.flags.values → r.HoldsPath c target bound template) ∧
      (f.location = .query → Url.octets (f.paramName, b.joined) ∈ r.url.queryPairs) ∧
      (f.location = .header →
        d.tracer = .none ∨ Headers.name? f.paramName ≠ some traceparent →
        ¬f.Replaced c bound →
        ∃ key, Headers.name? f.paramName = some key ∧ r.headers.get? key = some b.joined) := by
  have hkept := wellKept_of_compile hset hc
  have hsendable : isSendable f b = true := by simp [isSendable, hexplicit]
  have hbuild := Dispatcher.buildRequest_of_execute hsent hr
  obtain ⟨hurl, headers, hheaders, hinject⟩ := Dispatcher.buildRequest_eq_ok hbuild
  refine ⟨?_, fun hlocation => ⟨pathText_of_explicit hkept hf hlocation hbound hvalues, ?_⟩,
    fun hlocation => ?_, fun hlocation htrace hreplaced => ?_⟩
  · obtain ⟨-, -, p, -, target, -, hdeclared⟩ := hkept.name_of_mem hf
    rw [hdeclared.location]
    exact hdeclared.outside
  · exact fun template hpath hsound hbraces => holdsPath_of_requestUrl hurl hpath hsound hbraces
  · obtain ⟨-, url, -, -, hquery⟩ := Dispatcher.requestUrl_eq_ok hurl
    rw [hquery, Url.queryPairs_addPairs, bindQuery, List.map_map]
    refine List.mem_append_right _ (List.mem_map.2 ⟨(f, b), ?_, rfl⟩)
    exact mem_sendable.2 ⟨hf, hlocation, hbound, hsendable⟩
  · have hmem : (f, b) ∈ sendable c bound .header :=
      mem_sendable.2 ⟨hf, hlocation, hbound, hsendable⟩
    obtain ⟨hnames, fixed, -, hget⟩ := Dispatcher.headers_eq_ok hheaders
    obtain ⟨key, hkey⟩ := Option.isSome_iff_exists.1 (hnames _ (List.mem_map_of_mem hmem))
    have huntouched : (d.runSpan s).context = none ∨ key ≠ traceparent := by
      refine htrace.imp (fun hnone => ?_) fun hne heq => hne (heq ▸ hkey)
      rw [Dispatcher.runSpan, hnone]
      rfl
    refine ⟨key, hkey, ?_⟩
    rw [hinject, get?_inject _ _ huntouched, hget,
      lastValue?_headerPairs hkept hmem hkey hreplaced, Option.some_or]

/-! ## Two commands -/

namespace ExplicitValues

/-- A document with one operation, which is marked as the command `c`. -/
def document (path : String) (parameters : List (String × Location)) : Document :=
  let operation : Operation := { Operation.empty with
    command := some "c"
    parameters := parameters.map fun p =>
      { Parameter.empty with name := p.1, location := p.2, type := some "string" } }
  { Document.empty with
    paths := Dict.empty.insert path (PathItem.empty.setOperation .get (some operation)) }

/-- The flag of a parameter of the document. -/
def flag (name paramName : String) (location : Location) : Flag :=
  { name, paramName, location
    short := none
    description := ""
    type := .single .string
    required := false
    default := none
    fromEnv := false
    envSupplied := false }

/-- The command of the document. -/
def command (path : String) (flags : List Flag) : Command :=
  { name := "c"
    aliases := []
    method := .get
    path
    summary := ""
    description := ""
    flags := Dict.ofList (flags.map fun f => (f.name, f))
    isDefault := false }

/-- Values that a caller binds. -/
def explicit (values : List (String × List String)) : Dict Bound :=
  Dict.ofList (values.map fun v => (v.1, ⟨v.2, true⟩))

/-- A dispatcher with a trace of its own. -/
def dispatcher : Dispatcher := ⟨.trace "0af7651916cd43dd8448eb211c80319c", "client", none⟩

/-- The request of the command with the fields of its flags. -/
def request (segments : List String) (query : Option String) (fields : List (String × String)) :
    Request :=
  { method := .get
    url := ⟨"http", some ⟨"", none, .name "api.test", none⟩, .segments segments, query, none⟩
    headers := Dict.ofList ([("accept", "text/plain"), ("content-type", "application/json"),
      ("user-agent", "client"),
      ("traceparent", "00-0af7651916cd43dd8448eb211c80319c-0000000000000001-01")] ++ fields) }

/-- A command in which every value is found. -/
def found : Command :=
  command "/items/\x7bid\x7d"
    [flag "id" "id" .path, flag "tag" "tag" .query, flag "x-id" "X-Id" .header]

def foundTemplate : List PathPart :=
  [.literal "/", .literal "items", .literal "/", .placeholder "id"]

def foundRows : List (List PathPart) := [[.literal "items"], [.placeholder "id"]]

def foundValues : Dict Bound := explicit [("id", ["a b"]), ("tag", ["x", "y"]), ("x-id", ["7"])]

def foundRequest : Request :=
  request ["items", "a%20b"] (some "tag=x%2Cy") [("x-id", "7")]

def lostPath : String := "/x/\x7bd\x7d/\x7bz\x7bp\x7db\x7d/\x7ba\x7d/\x7bb\x7d"

/-- A command with a placeholder inside another one and a placeholder in the name of a parameter. Two
of its header parameters are written differently but name one field, and one parameter is a
cookie. -/
def lost : Command :=
  command lostPath
    [flag "a\x7d/\x7bb" "a\x7d/\x7bb" .path, flag "b" "b" .path, flag "d" "d" .path,
      flag "p" "p" .path, flag "session" "session" .other,
      flag "traceparent" "traceparent" .header, flag "x-a" "xA" .header, flag "xa" "XA" .header,
      flag "z-xb" "zXb" .path]

def lostValues : Dict Bound :=
  explicit [("a\x7d/\x7bb", ["AB"]), ("b", ["B"]), ("d", [".."]), ("p", ["X"]),
    ("session", ["secret"]), ("traceparent", ["mine"]), ("x-a", ["1"]), ("xa", ["2"]),
    ("z-xb", ["Z"])]

def lostRequest : Request := request ["Z", "AB"] none [("xa", "2")]

end ExplicitValues

open ExplicitValues

set_option maxRecDepth 2000 in
/-- The values of a path flag, of a query flag and of a header flag are found in the request. That of
the path flag is the last segment of its path. -/
theorem explicit_values_travel_found :
    (compile (document "/items/\x7bid\x7d" [("id", .path), ("tag", .query), ("X-Id", .header)])
        "http://api.test" fun _ => none).run.value =
        .ok ⟨[found], Registry.empty, "http://api.test"⟩ ∧
      (dispatcher.execute found "http://api.test" foundValues Session.start).2.sent =
        Session.start.sent ++ [foundRequest] ∧
      found.pathText foundValues "id" = Percent.encodeComponent "a b" ∧
      foundRequest.HoldsPath found "http://api.test" foundValues foundTemplate ∧
      (∃ before, foundRequest.url.path = .segments (before ++ ["items", "a%20b"])) ∧
      Url.octets ("tag", "x,y") ∈ foundRequest.url.queryPairs ∧
      ∃ key, Headers.name? "X-Id" = some key ∧ foundRequest.headers.get? key = some "7" := by
  have hset : (compile
      (document "/items/\x7bid\x7d" [("id", .path), ("tag", .query), ("X-Id", .header)])
      "http://api.test" fun _ => none).run.value =
      .ok ⟨[found], Registry.empty, "http://api.test"⟩ := by rfl
  have hsent : (dispatcher.execute found "http://api.test" foundValues Session.start).2.sent =
      Session.start.sent ++ [foundRequest] := by decide +kernel
  have hnone : ∀ g ∈ found.flags.values, ¬"x-id" < g.name := by decide +kernel
  have hbraces : BraceFree found.flags.values := by
    intro f hf _
    revert f
    decide +kernel
  obtain ⟨-, hpath, -, -⟩ := explicit_values_travel (f := flag "id" "id" .path) hset
    List.mem_cons_self (by decide +kernel) (b := ⟨["a b"], true⟩) (by rfl) rfl (by decide) hsent
    List.mem_cons_self
  obtain ⟨-, -, hquery, -⟩ := explicit_values_travel (f := flag "tag" "tag" .query) hset
    List.mem_cons_self (by decide +kernel) (b := ⟨["x", "y"], true⟩) (by rfl) rfl (by decide) hsent
    List.mem_cons_self
  obtain ⟨-, -, -, hheader⟩ := explicit_values_travel (f := flag "x-id" "X-Id" .header) hset
    List.mem_cons_self (by decide +kernel) (b := ⟨["7"], true⟩) (by rfl) rfl (by decide) hsent
    List.mem_cons_self
  obtain ⟨htext, hholds⟩ := hpath rfl
  have hfound := hholds foundTemplate (by rfl) (by decide) hbraces
  have hbase : Url.parse "http://api.test" =
      .ok ⟨"http", some ⟨"", none, .name "api.test", none⟩, .segments [""], none, none⟩ := by
    decide +kernel
  obtain ⟨before, hbefore⟩ := hfound.segments [] foundRows _ (by decide) (by decide) hbase
    (by decide) (by decide) (by decide) (by decide +kernel)
  have hlast : foundRows.map (fun row => String.join (row.map (PathPart.sent
      (found.pathText foundValues)))) = ["items", "a%20b"] := by decide +kernel
  rw [hlast] at hbefore
  refine ⟨hset, hsent, htext, hfound, ⟨before, hbefore⟩, hquery rfl,
    hheader rfl (.inr (by decide)) ?_⟩
  rintro ⟨g, hg, hlt, -⟩
  exact hnone g hg hlt

set_option maxRecDepth 2000 in
/-- Values that are bound explicitly are lost. The text `Z` goes into the outer placeholder that `X`
completes, and `AB` comes in the place of two placeholders. Two dots are a dot segment, which takes
the segment before it away. The later header flag and the trace context replace the fields of the
others, and a cookie is sent nowhere. -/
theorem explicit_values_lost :
    (compile (document lostPath
        [("p", .path), ("zXb", .path), ("a\x7d/\x7bb", .path), ("b", .path), ("d", .path),
          ("xA", .header), ("XA", .header), ("traceparent", .header), ("session", .other)])
        "http://api.test" fun _ => none).run.value =
        .ok ⟨[lost], Registry.empty, "http://api.test"⟩ ∧
      (dispatcher.execute lost "http://api.test" lostValues Session.start).2.sent = [lostRequest] ∧
      (flag "p" "p" .path ∈ lost.flags.values ∧ lostValues.get? "p" = some ⟨["X"], true⟩ ∧
        flag "b" "b" .path ∈ lost.flags.values ∧ lostValues.get? "b" = some ⟨["B"], true⟩ ∧
        flag "d" "d" .path ∈ lost.flags.values ∧ lostValues.get? "d" = some ⟨[".."], true⟩ ∧
        lostRequest.url.text = "http://api.test/Z/AB") ∧
      (flag "x-a" "xA" .header ∈ lost.flags.values ∧
        lostValues.get? "x-a" = some ⟨["1"], true⟩ ∧ Headers.name? "xA" = some "xa" ∧
        lostRequest.headers.get? "xa" = some "2") ∧
      (flag "traceparent" "traceparent" .header ∈ lost.flags.values ∧
        lostValues.get? "traceparent" = some ⟨["mine"], true⟩ ∧
        lostRequest.headers.get? "traceparent" =
          some "00-0af7651916cd43dd8448eb211c80319c-0000000000000001-01") ∧
      flag "session" "session" .other ∈ lost.flags.values ∧
        lostValues.get? "session" = some ⟨["secret"], true⟩ ∧
        ∀ field ∈ lostRequest.headers.entries, field.2 ≠ "secret" := by
  refine ⟨by rfl, by decide +kernel, ?_, ?_, ?_, ?_⟩
  · decide +kernel
  · decide +kernel
  · decide +kernel
  · decide +kernel

end ApiCli

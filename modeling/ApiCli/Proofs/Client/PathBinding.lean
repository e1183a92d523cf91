import ApiCli.Proofs.Client.ExplicitValues

/-!
# Binding paths

The flags of a command put their texts into its path one after the other. What comes out is told
here from the flags alone, without the order in which they are looked at.

* `Command.FillsPlaceholder`: a flag in the path has values for the placeholders of a name.
* `textOf?_eq_none_iff` and `fillsPlaceholder_of_textOf?` say that this is what substitution looks
  for; `textOf?_eq_some_iff` that a parameter with one flag has one text.

**Path binding** (`bindPath_substitutes`): with a text for every placeholder the path is the
template with all of them replaced at once, and otherwise the first placeholder without one is
reported.
-/

namespace ApiCli

variable {c : Command} {bound : Dict Bound} {f : Flag} {flags flags' : List Flag}
  {name text text' : String}

/-- A flag in the path whose parameter has the name is bound to values, and the text is theirs. -/
def Command.FillsPlaceholder (c : Command) (bound : Dict Bound) (name text : String) : Prop :=
  ∃ f ∈ c.flags.values, f.location = .path ∧ f.paramName = name ∧
    ∃ b, bound.get? f.name = some b ∧ b.values ≠ [] ∧ text = Percent.encodeComponent b.joined

/-! ## Texts of placeholders -/

theorem Flag.fills_eq_some_iff :
    f.fills bound = some text ↔ f.location = .path ∧
      ∃ b, bound.get? f.name = some b ∧ b.values ≠ [] ∧
        text = Percent.encodeComponent b.joined := by
  simp only [fills, Option.ite_none_right_eq_some, Option.map_eq_some_iff,
    Option.filter_eq_some_iff, Bool.not_eq_true', List.isEmpty_eq_false_iff, ne_eq, and_assoc,
    eq_comm (a := text)]

theorem Command.fillsPlaceholder_iff :
    c.FillsPlaceholder bound name text ↔
      ∃ f ∈ c.flags.values, f.paramName = name ∧ f.fills bound = some text := by
  simp only [FillsPlaceholder, Flag.fills_eq_some_iff]
  constructor
  · rintro ⟨f, hf, hlocation, hname, hvalues⟩
    exact ⟨f, hf, hname, hlocation, hvalues⟩
  · rintro ⟨f, hf, hname, hlocation, hvalues⟩
    exact ⟨f, hf, hlocation, hname, hvalues⟩

theorem exists_fills_of_textOf? (h : textOf? bound flags name = some text) :
    ∃ f ∈ flags, f.paramName = name ∧ f.fills bound = some text := by
  obtain ⟨f, hf, hfill⟩ := List.exists_of_findSome?_eq_some h
  rw [Option.ite_none_right_eq_some] at hfill
  exact ⟨f, hf, hfill⟩

theorem exists_textOf?_of_fills (hf : f ∈ flags) (hfill : f.fills bound = some text) :
    ∃ other, textOf? bound flags f.paramName = some other := by
  cases htext : textOf? bound flags f.paramName with
  | some other => exact ⟨other, rfl⟩
  | none =>
    have hnone := List.findSome?_eq_none_iff.1 htext f hf
    rw [if_pos rfl, hfill] at hnone
    cases hnone

theorem Command.fillsPlaceholder_of_textOf? (h : textOf? bound c.flags.values name = some text) :
    c.FillsPlaceholder bound name text :=
  fillsPlaceholder_iff.2 (exists_fills_of_textOf? h)

theorem Command.textOf?_eq_none_iff :
    textOf? bound c.flags.values name = none ↔ ¬∃ text, c.FillsPlaceholder bound name text := by
  constructor
  · rintro hnone ⟨text, hfills⟩
    obtain ⟨f, hf, rfl, hfill⟩ := fillsPlaceholder_iff.1 hfills
    obtain ⟨other, hother⟩ := exists_textOf?_of_fills hf hfill
    rw [hnone] at hother
    cases hother
  · intro hnone
    cases htext : textOf? bound c.flags.values name with
    | none => rfl
    | some text => exact absurd ⟨text, fillsPlaceholder_of_textOf? htext⟩ hnone

/-- No two flags in the path are for parameters of one name. -/
def OneFlagEach (flags : List Flag) : Prop :=
  ∀ f ∈ flags, ∀ g ∈ flags, f.location = .path → g.location = .path → f.paramName = g.paramName →
    f = g

theorem oneFlagEach_of_compile {doc : Document} {env : Environment} {set : CommandSet}
    (hset : (compile doc baseUrl env).run.value = .ok set) (hc : c ∈ set.commands) :
    OneFlagEach c.flags.values := by
  intro f hf g hg _ _ hname
  have hsymm : Std.Symm fun f g : Flag => f.paramName ≠ g.paramName := ⟨fun _ _ h => h.symm⟩
  by_contra hne
  exact (wellKept_of_compile hset hc).distinct.forall hf hg hne hname

/-- With one flag for each parameter, the text of a name is that of its flag. -/
theorem textOf?_eq_some_iff (hone : OneFlagEach flags) :
    textOf? bound flags name = some text ↔
      ∃ f ∈ flags, f.paramName = name ∧ f.fills bound = some text := by
  refine ⟨exists_fills_of_textOf?, ?_⟩
  rintro ⟨f, hf, rfl, hfill⟩
  obtain ⟨other, hother⟩ := exists_textOf?_of_fills hf hfill
  obtain ⟨g, hg, hname, hgfill⟩ := exists_fills_of_textOf? hother
  obtain rfl := hone g hg f hf (Flag.fills_eq_some_iff.1 hgfill).1
    (Flag.fills_eq_some_iff.1 hfill).1 hname
  rw [hother, ← hgfill, hfill]

theorem textOf?_perm (hone : OneFlagEach flags) (hperm : flags'.Perm flags) :
    textOf? bound flags' = textOf? bound flags := by
  have hone' : OneFlagEach flags' := fun f hf g hg =>
    hone f (hperm.mem_iff.1 hf) g (hperm.mem_iff.1 hg)
  funext name
  refine Option.ext fun text => ?_
  rw [textOf?_eq_some_iff hone, textOf?_eq_some_iff hone']
  simp only [hperm.mem_iff]

/-! ## The path -/

variable {template before after : List PathPart}

section

variable (hpath : c.path = String.ofList (renderParts template))
  (hsound : ∀ part ∈ template, part.Sound) (hbraces : BraceFree c.flags.values)
include hpath hsound hbraces

theorem bindPath_of_filled
    (hfilled : ∀ name, .placeholder name ∈ template → ∃ text, c.FillsPlaceholder bound name text) :
    ∃ texts : String → String,
      (∀ name, .placeholder name ∈ template → c.FillsPlaceholder bound name (texts name)) ∧
      bindPath c bound =
        .ok (String.ofList (renderParts (template.map (PathPart.filled texts)))) := by
  have htext : ∀ name, .placeholder name ∈ template →
      textOf? bound c.flags.values name = some (c.pathText bound name) := by
    intro name hname
    cases htext : textOf? bound c.flags.values name with
    | none => exact absurd (hfilled name hname) (Command.textOf?_eq_none_iff.1 htext)
    | some text => rw [Command.pathText, htext, Option.getD_some]
  have hsubstitute : template.map (PathPart.substitute (textOf? bound c.flags.values)) =
      template.map (PathPart.filled (c.pathText bound)) :=
    List.map_congr_left fun part hpart =>
      PathPart.substitute_eq_filled fun name hname => htext name (hname ▸ hpart)
  refine ⟨c.pathText bound,
    fun name hname => Command.fillsPlaceholder_of_textOf? (htext name hname), ?_⟩
  have hnone : (template.map (PathPart.filled (c.pathText bound))).findSome? PathPart.name? =
      none := by
    rw [List.findSome?_map, List.findSome?_eq_none_iff]
    intro part _
    cases part <;> rfl
  rw [bindPath_renderParts hpath hsound hbraces, hsubstitute, hnone]

theorem bindPath_of_unfilled (htemplate : template = before ++ .placeholder name :: after)
    (hbefore : ∀ other, .placeholder other ∈ before → ∃ text, c.FillsPlaceholder bound other text)
    (hname : ¬∃ text, c.FillsPlaceholder bound name text) : bindPath c bound = .error name := by
  have hfirst : (template.map (PathPart.substitute (textOf? bound c.flags.values))).findSome?
      PathPart.name? = some name.toList := by
    rw [htemplate, List.findSome?_map, List.findSome?_append]
    have hnone : before.findSome? (PathPart.name? ∘
        PathPart.substitute (textOf? bound c.flags.values)) = none := by
      rw [List.findSome?_eq_none_iff]
      intro part hpart
      cases part with
      | literal s => rfl
      | placeholder other =>
        rw [Function.comp_apply, PathPart.substitute]
        cases htext : textOf? bound c.flags.values other with
        | none => exact absurd (hbefore other hpart) (Command.textOf?_eq_none_iff.1 htext)
        | some text => rfl
    rw [hnone, Option.none_or, List.findSome?_cons, Function.comp_apply, PathPart.substitute,
      Command.textOf?_eq_none_iff.2 hname]
    rfl
  rw [bindPath_renderParts hpath hsound hbraces, hfirst]
  exact congrArg Except.error String.ofList_toList

end

/-- **Path binding** is one substitution. If every placeholder of the template has a flag in the
path that is bound to values, all placeholders are replaced by the texts of these values. Otherwise
the first placeholder that has none is reported. With one flag for each parameter, as in every
command of a document, a placeholder has one text, and it does not matter which flag comes first. -/
theorem bindPath_substitutes (bound : Dict Bound)
    (hpath : c.path = String.ofList (renderParts template))
    (hsound : ∀ part ∈ template, part.Sound) (hbraces : BraceFree c.flags.values) :
    ((∀ name, .placeholder name ∈ template → ∃ text, c.FillsPlaceholder bound name text) →
      ∃ texts : String → String,
        (∀ name, .placeholder name ∈ template → c.FillsPlaceholder bound name (texts name)) ∧
        bindPath c bound =
          .ok (String.ofList (renderParts (template.map (PathPart.filled texts))))) ∧
      (∀ before name after, template = before ++ .placeholder name :: after →
        (∀ other, .placeholder other ∈ before → ∃ text, c.FillsPlaceholder bound other text) →
        (¬∃ text, c.FillsPlaceholder bound name text) →
        bindPath c bound = .error name ∧
          ∀ baseUrl, Dispatcher.requestUrl c baseUrl bound =
            .error (.unboundPathParameter name)) ∧
      (OneFlagEach c.flags.values →
        (∀ name text text', c.FillsPlaceholder bound name text →
          c.FillsPlaceholder bound name text' → text = text') ∧
        ∀ flags : List Flag, flags.Perm c.flags.values →
          flags.foldl (bindFlag bound) c.path = c.flags.values.foldl (bindFlag bound) c.path) ∧
      ∀ doc baseUrl env set, (compile doc baseUrl env).run.value = .ok set → c ∈ set.commands →
        OneFlagEach c.flags.values := by
  refine ⟨bindPath_of_filled hpath hsound hbraces,
    fun before name after htemplate hbefore hname => ?_,
    fun hone => ⟨fun name text text' h h' => ?_, fun flags hperm => ?_⟩,
    fun doc baseUrl env set hset hc => oneFlagEach_of_compile hset hc⟩
  · have hbind := bindPath_of_unfilled hpath hsound hbraces htemplate hbefore hname
    refine ⟨hbind, fun baseUrl => ?_⟩
    rw [Dispatcher.requestUrl, hbind]
  · have htext := (textOf?_eq_some_iff hone).2 (Command.fillsPlaceholder_iff.1 h)
    have htext' := (textOf?_eq_some_iff hone).2 (Command.fillsPlaceholder_iff.1 h')
    exact Option.some.inj (htext.symm.trans htext')
  · have hbraces' : BraceFree flags := fun f hf => hbraces f (hperm.mem_iff.1 hf)
    rw [hpath, foldl_bindFlag_renderParts hbraces' hsound,
      foldl_bindFlag_renderParts hbraces hsound, textOf?_perm hone hperm]

/-! ## A path with a repeated placeholder -/

namespace PathBinding
open ExplicitValues

def repeated : List PathPart :=
  [.literal "/", .placeholder "a", .literal "-", .placeholder "b", .literal "/", .placeholder "a"]

/-- A command on the template with the parameter `a` in the path and `b` in some place. -/
def sample (location : Location) : Command :=
  command "/\x7ba\x7d-\x7bb\x7d/\x7ba\x7d" [flag "a" "a" .path, flag "b" "b" location]

/-- The value of `a` reads like the placeholder of `b`, which has its values from a default. -/
def values : Dict Bound := Dict.ofList [("a", ⟨["\x7bb\x7d"], true⟩), ("b", ⟨["1", "2"], false⟩)]

end PathBinding

open PathBinding in
set_option maxRecDepth 2000 in
/-- The value that reads like a placeholder stays as it is in both places, also when the flags are
looked at in the other order. A query flag `b` does not fill the placeholder. -/
theorem bindPath_substitutes_braces :
    (∃ texts : String → String,
        (sample .path).FillsPlaceholder values "a" (texts "a") ∧
        (sample .path).FillsPlaceholder values "b" (texts "b") ∧
        bindPath (sample .path) values =
          .ok (String.ofList (renderParts (repeated.map (PathPart.filled texts))))) ∧
      bindPath (sample .path) values = .ok "/%7Bb%7D-1%2C2/%7Bb%7D" ∧
      (sample .path).flags.values.reverse.foldl (bindFlag values) (sample .path).path =
        (sample .path).flags.values.foldl (bindFlag values) (sample .path).path ∧
      bindPath (sample .query) values = .error "b" := by
  have hsound : ∀ part ∈ repeated, part.Sound := by decide
  have hbraces (location : Location) : BraceFree (sample location).flags.values := by
    intro f hf _
    revert f
    cases location <;> decide +kernel
  have ha (location : Location) :
      ∃ text, (sample location).FillsPlaceholder values "a" text := by
    refine ⟨_, ExplicitValues.flag "a" "a" .path, ?_, rfl, rfl, ⟨["\x7bb\x7d"], true⟩, by rfl,
      by decide, rfl⟩
    cases location <;> decide +kernel
  have hb : ∃ text, (sample .path).FillsPlaceholder values "b" text :=
    ⟨_, ExplicitValues.flag "b" "b" .path, by decide +kernel, rfl, rfl, ⟨["1", "2"], false⟩,
      by rfl, by decide, rfl⟩
  have hquery : ¬∃ text, (sample .query).FillsPlaceholder values "b" text := by
    have hflags : ∀ f ∈ (sample .query).flags.values, f.location = .path → f.paramName ≠ "b" := by
      decide +kernel
    rintro ⟨text, f, hf, hlocation, hname, -⟩
    exact hflags f hf hlocation hname
  have hset : (compile (ExplicitValues.document "/\x7ba\x7d-\x7bb\x7d/\x7ba\x7d"
      [("a", .path), ("b", .path)]) "http://api.test" fun _ => none).run.value =
      .ok ⟨[sample .path], Registry.empty, "http://api.test"⟩ := by rfl
  obtain ⟨hfilled, -, hone, hcompiled⟩ :=
    bindPath_substitutes (c := sample .path) values (by rfl) hsound (hbraces .path)
  obtain ⟨-, hunfilled, -, -⟩ :=
    bindPath_substitutes (c := sample .query) values (by rfl) hsound (hbraces .query)
  obtain ⟨texts, htexts, hbind⟩ := hfilled fun name hname => by
    have hcases : name = "a" ∨ name = "b" ∨ name = "a" := by simpa [repeated] using hname
    rcases hcases with rfl | rfl | rfl
    · exact ha .path
    · exact hb
    · exact ha .path
  obtain ⟨-, horder⟩ := hone (hcompiled _ _ _ _ hset List.mem_cons_self)
  refine ⟨⟨texts, htexts "a" (by decide), htexts "b" (by decide), hbind⟩, by decide +kernel,
    horder _ (List.reverse_perm _), ?_⟩
  refine (hunfilled [.literal "/", .placeholder "a", .literal "-"] "b" _ rfl
    (fun other hother => ?_) hquery).1
  obtain rfl : other = "a" := by simpa using hother
  exact ha .query

end ApiCli

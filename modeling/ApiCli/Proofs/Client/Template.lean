import ApiCli.Client.Binding
import ApiCli.Proofs.Command.Provenance
import ApiCli.Proofs.Text.Kebab
import ApiCli.Proofs.Text.Percent
import ApiCli.Proofs.Text.Replace

/-!
# Path templates

A path template is read as parts: literal texts and placeholders. Binding a path puts a text in
the place of every placeholder, one flag after the other in name order, each by a replacement in
the whole path.

* `renderParts` is the text of parts, and `PathPart.filled` the part with every placeholder
  replaced by its text.
* `replace_renderParts` is the step: one replacement fills the placeholders of one name, unless
  its name goes on after the closing brace of another one.
* `foldl_bindFlag`: that never happens in name order, so all flags together fill everything.
-/

namespace ApiCli

/-- A part of a path template. -/
inductive PathPart where
  | literal (text : String)
  | placeholder (name : String)
  deriving DecidableEq, Repr

namespace PathPart

/-- The text of a part in the template. -/
def chars : PathPart → List Char
  | literal text => text.toList
  | placeholder name => '\x7b' :: (name.toList ++ ['\x7d'])

/-- No literal opens a placeholder, and no name has a brace. -/
def Sound : PathPart → Prop
  | literal text => '\x7b' ∉ text.toList
  | placeholder name => '\x7b' ∉ name.toList ∧ '\x7d' ∉ name.toList

instance : (p : PathPart) → Decidable p.Sound
  | literal text => inferInstanceAs (Decidable ('\x7b' ∉ text.toList))
  | placeholder name =>
    inferInstanceAs (Decidable ('\x7b' ∉ name.toList ∧ '\x7d' ∉ name.toList))

/-- The part after the placeholders of one name have been replaced. -/
def fill (name text : String) : PathPart → PathPart
  | literal s => literal s
  | placeholder other => if other = name then literal text else placeholder other

/-- The part after all placeholders have been replaced. -/
def filled (texts : String → String) : PathPart → PathPart
  | literal s => literal s
  | placeholder name => literal (texts name)

end PathPart

/-- The text of parts. -/
def renderParts (parts : List PathPart) : List Char := parts.flatMap PathPart.chars

theorem toList_placeholder (name : String) :
    (placeholder name).toList = '\x7b' :: (name.toList ++ ['\x7d']) := by
  simp [placeholder]

/-- A placeholder's text begins that of a different one only if the name of the one goes on after
the closing brace of the other. -/
theorem exists_of_prefix {name other : List Char} (hbrace : '\x7d' ∉ other) (hne : name ≠ other)
    (h : name ++ ['\x7d'] <+: other ++ '\x7d' :: rest) : ∃ x, name = other ++ '\x7d' :: x := by
  induction other generalizing name with
  | nil =>
    cases name with
    | nil => exact absurd rfl hne
    | cons c name =>
      obtain ⟨rfl, -⟩ := List.cons_prefix_cons.1 h
      exact ⟨name, rfl⟩
  | cons d other ih =>
    obtain ⟨hd, hother⟩ := List.ne_and_not_mem_of_not_mem_cons hbrace
    cases name with
    | nil => exact absurd (List.cons_prefix_cons.1 h).1 hd
    | cons c name =>
      obtain ⟨rfl, hrest⟩ := List.cons_prefix_cons.1 h
      obtain ⟨x, rfl⟩ := ih hother (fun heq => hne (heq ▸ rfl)) hrest
      exact ⟨x, rfl⟩

/-- One replacement fills the placeholders of its name. -/
theorem replace_renderParts {parts : List PathPart} (hsound : ∀ p ∈ parts, p.Sound)
    (hname : ∀ other, .placeholder other ∈ parts → ∀ x, name.toList ≠ other.toList ++ '\x7d' :: x)
    (text : String) :
    Text.replace (placeholder name) text (String.ofList (renderParts parts)) =
      String.ofList (renderParts (parts.map (PathPart.fill name text))) := by
  rw [Text.replace, toList_placeholder, String.toList_ofList]
  congr 1
  induction parts with
  | nil => rfl
  | cons part parts ih =>
    have ih := ih (fun p hp => hsound p (List.mem_cons_of_mem _ hp))
      fun other hother => hname other (List.mem_cons_of_mem _ hother)
    have hpart := hsound part List.mem_cons_self
    simp only [renderParts, List.flatMap_cons, List.map_cons] at ih ⊢
    cases part with
    | literal s =>
      rw [PathPart.fill, ← ih]
      exact Text.replaceAfter_append_of_notMem hpart
    | placeholder other =>
      by_cases hother : other = name
      · subst hother
        rw [PathPart.fill, if_pos rfl, ← ih]
        exact Text.replaceAfter_pattern _ _ _ _
      · rw [PathPart.fill, if_neg hother, ← ih]
        have hprefix : ¬('\x7b' :: (name.toList ++ ['\x7d']) <+:
            '\x7b' :: (other.toList ++ ['\x7d'] ++ parts.flatMap PathPart.chars)) := by
          intro h
          rw [List.append_assoc] at h
          obtain ⟨x, hx⟩ := exists_of_prefix hpart.2
            (fun heq => hother (String.toList_inj.1 heq).symm) (List.cons_prefix_cons.1 h).2
          exact hname other List.mem_cons_self x hx
        have hrest : '\x7b' ∉ other.toList ++ ['\x7d'] := by simp [hpart.1]
        refine (Text.replaceAfter_of_not_prefix hprefix).trans ?_
        rw [Text.replaceAfter_append_of_notMem hrest]
        rfl

/-! ## Flags one after the other -/

/-- The text that a flag puts in the place of its placeholders. -/
def Flag.fills (bound : Dict Bound) (f : Flag) : Option String :=
  if f.location = .path then
    ((bound.get? f.name).filter fun b => !b.values.isEmpty).map fun b =>
      Percent.encodeComponent b.joined
  else none

theorem bindFlag_eq (bound : Dict Bound) (path : String) (f : Flag) :
    bindFlag bound path f =
      match f.fills bound with
      | none => path
      | some text => Text.replace (placeholder f.paramName) text path := by
  unfold bindFlag Flag.fills
  split
  · cases bound.get? f.name with
    | none => rfl
    | some b => cases h : b.values.isEmpty <;> simp [Option.filter, h]
  · rfl

theorem PathPart.Sound.fill {part : PathPart} {name text : String} (hpart : part.Sound)
    (htext : '\x7b' ∉ text.toList) : (part.fill name text).Sound := by
  cases part with
  | literal s => exact hpart
  | placeholder other =>
    by_cases hother : other = name
    · rw [PathPart.fill, if_pos hother]
      exact htext
    · rw [PathPart.fill, if_neg hother]
      exact hpart

theorem PathPart.filled_fill {texts : String → String} {part : PathPart} {name text : String}
    (h : part = .placeholder name → texts name = text) :
    (part.fill name text).filled texts = part.filled texts := by
  cases part with
  | literal s => rfl
  | placeholder other =>
    by_cases hother : other = name
    · subst hother
      rw [fill, if_pos rfl, filled, filled, h rfl]
    · rw [fill, if_neg hother]

theorem PathPart.eq_of_fill_eq {part : PathPart} {name text other : String}
    (h : part.fill name text = .placeholder other) : part = .placeholder other ∧ other ≠ name := by
  cases part with
  | literal s => cases h
  | placeholder name' =>
    by_cases hname : name' = name
    · rw [fill, if_pos hname] at h
      cases h
    · rw [fill, if_neg hname] at h
      cases h
      exact ⟨rfl, hname⟩

theorem notMem_fills {f : Flag} {bound : Dict Bound} (h : f.fills bound = some text) :
    '\x7b' ∉ text.toList := by
  unfold Flag.fills at h
  split at h
  · obtain ⟨b, -, rfl⟩ := Option.map_eq_some_iff.1 h
    intro hmem
    rcases Percent.mem_encodeComponent hmem with h | h
    · exact absurd h (by decide)
    · exact absurd h (by decide)
  · cases h

/-- Flags in name order that have the texts of all placeholders. -/
structure FillsAll (bound : Dict Bound) (texts : String → String) (flags : List Flag)
    (parts : List PathPart) : Prop where
  ordered : flags.Pairwise fun f g => f.name < g.name
  kebab : ∀ f ∈ flags, f.name = Text.kebab f.paramName
  sound : ∀ p ∈ parts, p.Sound
  fills : ∀ name, .placeholder name ∈ parts →
    ∃ f ∈ flags, f.paramName = name ∧ f.fills bound = some (texts name)

namespace FillsAll

variable {bound : Dict Bound} {texts : String → String} {f : Flag} {flags : List Flag}
  {parts : List PathPart} {text : String}

/-- The first flag's name does not go on after the brace of a placeholder: the placeholder's own
flag would come before it. -/
theorem not_beyond (h : FillsAll bound texts (f :: flags) parts) {other : String}
    (hother : .placeholder other ∈ parts) (x : List Char) :
    f.paramName.toList ≠ other.toList ++ '\x7d' :: x := by
  intro hx
  obtain ⟨g, hg, rfl, -⟩ := h.fills other hother
  have hparam : f.paramName = g.paramName ++ "\x7d" ++ String.ofList x :=
    String.toList_inj.1 (by simp [hx])
  have hlt : g.name < f.name := by
    rw [h.kebab g hg, h.kebab f List.mem_cons_self, hparam]
    exact Text.kebab_lt_append_brace _ _
  rcases List.mem_cons.1 hg with rfl | hg
  · exact String.lt_irrefl _ hlt
  · exact String.lt_asymm hlt ((List.pairwise_cons.1 h.ordered).1 g hg)

/-- The placeholders of the first flag's name are its own. -/
theorem own (h : FillsAll bound texts (f :: flags) parts) (hfill : f.fills bound = some text)
    (hmem : .placeholder f.paramName ∈ parts) : texts f.paramName = text := by
  obtain ⟨g, hg, hparam, hfills⟩ := h.fills f.paramName hmem
  rcases List.mem_cons.1 hg with rfl | hg'
  · rw [hfill] at hfills
    exact (Option.some.inj hfills).symm
  · have hsame : f.name = g.name := by
      rw [h.kebab f List.mem_cons_self, h.kebab g hg, hparam]
    exact absurd ((List.pairwise_cons.1 h.ordered).1 g hg') (hsame ▸ String.lt_irrefl _)

theorem skip (h : FillsAll bound texts (f :: flags) parts) (hfill : f.fills bound = none) :
    FillsAll bound texts flags parts where
  ordered := (List.pairwise_cons.1 h.ordered).2
  kebab g hg := h.kebab g (List.mem_cons_of_mem _ hg)
  sound := h.sound
  fills name hname := by
    obtain ⟨g, hg, hparam, hfills⟩ := h.fills name hname
    rcases List.mem_cons.1 hg with rfl | hg
    · rw [hfill] at hfills
      cases hfills
    · exact ⟨g, hg, hparam, hfills⟩

theorem step (h : FillsAll bound texts (f :: flags) parts) (hfill : f.fills bound = some text) :
    FillsAll bound texts flags (parts.map (PathPart.fill f.paramName text)) where
  ordered := (List.pairwise_cons.1 h.ordered).2
  kebab g hg := h.kebab g (List.mem_cons_of_mem _ hg)
  sound p hp := by
    obtain ⟨part, hpart, rfl⟩ := List.mem_map.1 hp
    exact (h.sound part hpart).fill (notMem_fills hfill)
  fills name hname := by
    obtain ⟨part, hpart, hpartfill⟩ := List.mem_map.1 hname
    obtain ⟨rfl, hne⟩ := PathPart.eq_of_fill_eq hpartfill
    obtain ⟨g, hg, hparam, hfills⟩ := h.fills name hpart
    rcases List.mem_cons.1 hg with rfl | hg
    · exact absurd hparam.symm hne
    · exact ⟨g, hg, hparam, hfills⟩

/-- One flag after the other, all placeholders are filled. -/
theorem foldl_bindFlag (h : FillsAll bound texts flags parts) :
    flags.foldl (bindFlag bound) (String.ofList (renderParts parts)) =
      String.ofList (renderParts (parts.map (PathPart.filled texts))) := by
  induction flags generalizing parts with
  | nil =>
    have hsame : parts.map (PathPart.filled texts) = parts := by
      refine (List.map_congr_left fun p hp => ?_).trans (List.map_id _)
      cases p with
      | literal s => rfl
      | placeholder name =>
        obtain ⟨f, hf, -⟩ := h.fills name hp
        cases hf
    rw [hsame]
    rfl
  | cons f flags ih =>
    rw [List.foldl_cons, bindFlag_eq]
    cases hfill : f.fills bound with
    | none => exact ih (h.skip hfill)
    | some text =>
      dsimp only
      rw [replace_renderParts h.sound fun other hother => h.not_beyond hother,
        ih (h.step hfill), List.map_map]
      congr 2
      refine List.map_congr_left fun part hpart => PathPart.filled_fill fun heq => ?_
      exact h.own hfill (heq ▸ hpart)

end FillsAll

/-! ## Paths of commands -/

theorem firstPlaceholder?_eq_none {path : List Char} (h : '\x7b' ∉ path) :
    firstPlaceholder? path = none := by
  induction path with
  | nil => rfl
  | cons c path ih =>
    obtain ⟨hc, hpath⟩ := List.ne_and_not_mem_of_not_mem_cons h
    rw [firstPlaceholder?, if_neg (Ne.symm hc), ih hpath]

theorem notMem_renderParts_filled {texts : String → String} {parts : List PathPart}
    (hsound : ∀ p ∈ parts, p.Sound) (htexts : ∀ name, .placeholder name ∈ parts →
      '\x7b' ∉ (texts name).toList) :
    '\x7b' ∉ renderParts (parts.map (PathPart.filled texts)) := by
  rw [renderParts, List.flatMap_map]
  intro hmem
  obtain ⟨part, hpart, hmem⟩ := List.mem_flatMap.1 hmem
  cases part with
  | literal s => exact hsound _ hpart hmem
  | placeholder name => exact htexts name hpart hmem

/-- The path of a compiled command with all placeholders filled. -/
theorem bindPath_eq_ok {c : Command} {bound : Dict Bound} {texts : String → String}
    {parts : List PathPart} (hpath : c.path = String.ofList (renderParts parts))
    (h : FillsAll bound texts c.flags.values parts) :
    bindPath c bound = .ok (String.ofList (renderParts (parts.map (PathPart.filled texts)))) := by
  have htexts : ∀ name, .placeholder name ∈ parts → '\x7b' ∉ (texts name).toList := by
    intro name hname
    obtain ⟨f, -, -, hfills⟩ := h.fills name hname
    exact notMem_fills hfills
  unfold bindPath
  rw [hpath, h.foldl_bindFlag]
  dsimp only
  rw [String.toList_ofList, firstPlaceholder?_eq_none (notMem_renderParts_filled h.sound htexts)]

end ApiCli

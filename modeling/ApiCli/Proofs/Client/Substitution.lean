import ApiCli.Proofs.Client.Template
import ApiCli.Proofs.Text.Split

/-!
# Substitution in path templates

The flags of a command put their texts into its path one after the other. When no parameter's
name has a brace, that is one substitution.

* `PathPart.substitute` replaces a placeholder by its text, if it has one.
* `textOf?` is the text of the flag that fills the placeholders of a name; `Command.pathText` is the
  text that stands in their place in a path that is bound.
* `firstPlaceholder?_renderParts`: the placeholder found first is that of the first part that is
  one.

**Substitution** (`bindPath_renderParts`): the path is the template with every placeholder replaced,
and it cannot be bound exactly if one is left.
-/

namespace ApiCli

variable {bound : Dict Bound} {flags : List Flag} {f : Flag} {parts : List PathPart}
  {text? : String → Option String}

namespace PathPart

def substitute (text? : String → Option String) : PathPart → PathPart
  | literal s => literal s
  | placeholder name =>
    match text? name with
    | none => placeholder name
    | some text => literal text

/-- The name of a placeholder. -/
def name? : PathPart → Option (List Char)
  | literal _ => none
  | placeholder name => some name.toList

theorem substitute_none (part : PathPart) : part.substitute (fun _ => none) = part := by
  cases part <;> rfl

/-- A text that one flag puts in comes before those of the flags after it. -/
theorem substitute_fill (text? : String → Option String) (name text : String) (part : PathPart) :
    (part.fill name text).substitute text? =
      part.substitute fun other => if other = name then some text else text? other := by
  cases part with
  | literal s => rfl
  | placeholder other =>
    by_cases hother : other = name
    · simp [fill, substitute, hother]
    · simp [fill, substitute, hother]

theorem substitute_eq_filled {texts : String → String} {part : PathPart}
    (h : ∀ name, part = .placeholder name → text? name = some (texts name)) :
    part.substitute text? = part.filled texts := by
  cases part with
  | literal s => rfl
  | placeholder name => rw [substitute, h name rfl, filled]

end PathPart

/-- The text of the first flag that fills the placeholders of a name. -/
def textOf? (bound : Dict Bound) (flags : List Flag) (name : String) : Option String :=
  flags.findSome? fun f => if f.paramName = name then f.fills bound else none

/-- The text in the place of the placeholders of a name, as far as a flag has one. -/
def Command.pathText (c : Command) (bound : Dict Bound) (name : String) : String :=
  (textOf? bound c.flags.values name).getD ""

theorem textOf?_cons_of_none (h : f.fills bound = none) :
    textOf? bound (f :: flags) = textOf? bound flags := by
  funext name
  simp [textOf?, h]

theorem textOf?_cons_of_some (h : f.fills bound = some text) : textOf? bound (f :: flags) =
    fun other => if other = f.paramName then some text else textOf? bound flags other := by
  funext other
  rw [textOf?, List.findSome?_cons]
  by_cases hother : f.paramName = other
  · simp [hother, h]
  · simp [hother, Ne.symm hother, textOf?]

/-- With one flag for each name, every flag fills the placeholders of its own. -/
theorem textOf?_of_mem (hdistinct : flags.Pairwise fun f g => f.paramName ≠ g.paramName)
    (hf : f ∈ flags) : textOf? bound flags f.paramName = f.fills bound := by
  induction flags with
  | nil => cases hf
  | cons g flags ih =>
    obtain ⟨hg, hrest⟩ := List.pairwise_cons.1 hdistinct
    rcases List.mem_cons.1 hf with rfl | hf
    · cases hfill : f.fills bound with
      | some text =>
        rw [textOf?_cons_of_some hfill]
        exact if_pos rfl
      | none =>
        rw [textOf?_cons_of_none hfill]
        exact List.findSome?_eq_none_iff.2 fun h hh => if_neg (Ne.symm (hg h hh))
    · rw [← ih hrest hf, textOf?, List.findSome?_cons, if_neg (hg f hf)]
      rfl

/-! ## All flags of a command -/

/-- The names of the parameters in the path have no braces. -/
def BraceFree (flags : List Flag) : Prop :=
  ∀ f ∈ flags, f.location = .path → '\x7b' ∉ f.paramName.toList ∧ '\x7d' ∉ f.paramName.toList

theorem location_of_fills (h : f.fills bound = some text) : f.location = .path := by
  unfold Flag.fills at h
  split at h
  · assumption
  · cases h

theorem foldl_bindFlag_renderParts (hbraces : BraceFree flags) (hsound : ∀ p ∈ parts, p.Sound) :
    flags.foldl (bindFlag bound) (String.ofList (renderParts parts)) =
      String.ofList (renderParts (parts.map (PathPart.substitute (textOf? bound flags)))) := by
  induction flags generalizing parts with
  | nil =>
    have hsame : parts.map (PathPart.substitute (textOf? bound [])) = parts :=
      (List.map_congr_left fun p _ => p.substitute_none).trans (List.map_id _)
    rw [hsame]
    rfl
  | cons f flags ih =>
    have hrest : BraceFree flags := fun g hg => hbraces g (List.mem_cons_of_mem _ hg)
    rw [List.foldl_cons, bindFlag_eq]
    cases hfill : f.fills bound with
    | none => rw [textOf?_cons_of_none hfill, ih hrest hsound]
    | some text =>
      have hown := hbraces f List.mem_cons_self (location_of_fills hfill)
      have hfilled : ∀ p ∈ parts.map (PathPart.fill f.paramName text), p.Sound := by
        intro p hp
        obtain ⟨part, hpart, rfl⟩ := List.mem_map.1 hp
        exact (hsound part hpart).fill (notMem_fills hfill)
      dsimp only
      rw [replace_renderParts hsound (fun other _ x heq => hown.2 (by simp [heq])) text,
        ih hrest hfilled, List.map_map, textOf?_cons_of_some hfill]
      congr 2
      exact List.map_congr_left fun part _ => PathPart.substitute_fill _ _ _ part

theorem firstPlaceholder?_append {s : List Char} (h : '\x7b' ∉ s) (rest : List Char) :
    firstPlaceholder? (s ++ rest) = firstPlaceholder? rest := by
  induction s with
  | nil => rfl
  | cons c s ih =>
    obtain ⟨hc, hs⟩ := List.ne_and_not_mem_of_not_mem_cons h
    rw [List.cons_append, firstPlaceholder?, if_neg (Ne.symm hc), ih hs]

theorem firstPlaceholder?_renderParts (hsound : ∀ p ∈ parts, p.Sound) :
    firstPlaceholder? (renderParts parts) = parts.findSome? PathPart.name? := by
  induction parts with
  | nil => rfl
  | cons part parts ih =>
    have hpart := hsound part List.mem_cons_self
    have ih := ih fun p hp => hsound p (List.mem_cons_of_mem _ hp)
    rw [renderParts, List.flatMap_cons, ← renderParts, List.findSome?_cons]
    cases part with
    | literal s => exact (firstPlaceholder?_append hpart _).trans ih
    | placeholder name =>
      rw [PathPart.chars, List.cons_append, List.append_assoc, List.singleton_append,
        firstPlaceholder?, if_pos rfl, Text.breakAt_append hpart.2]
      rfl

theorem PathPart.Sound.substitute {part : PathPart} (hpart : part.Sound)
    (htexts : ∀ name text, text? name = some text → '\x7b' ∉ text.toList) :
    (part.substitute text?).Sound := by
  cases part with
  | literal s => exact hpart
  | placeholder name =>
    rw [PathPart.substitute]
    cases htext : text? name with
    | none => exact hpart
    | some text => exact htexts name text htext

theorem notMem_textOf? (h : textOf? bound flags name = some text) : '\x7b' ∉ text.toList := by
  obtain ⟨f, -, hf⟩ := List.exists_of_findSome?_eq_some h
  split at hf
  · exact notMem_fills hf
  · cases hf

/-- Binding a path replaces every placeholder that has a text; one that is left is an error. -/
theorem bindPath_renderParts {c : Command} (hpath : c.path = String.ofList (renderParts parts))
    (hsound : ∀ p ∈ parts, p.Sound) (hbraces : BraceFree c.flags.values) :
    bindPath c bound =
      match (parts.map (PathPart.substitute (textOf? bound c.flags.values))).findSome?
          PathPart.name? with
      | some name => .error (String.ofList name)
      | none => .ok (String.ofList (renderParts
          (parts.map (PathPart.substitute (textOf? bound c.flags.values))))) := by
  have hfilled : ∀ p ∈ parts.map (PathPart.substitute (textOf? bound c.flags.values)), p.Sound := by
    intro p hp
    obtain ⟨part, hpart, rfl⟩ := List.mem_map.1 hp
    exact (hsound part hpart).substitute fun _ _ => notMem_textOf?
  have hfirst := firstPlaceholder?_renderParts hfilled
  unfold bindPath
  rw [hpath, foldl_bindFlag_renderParts hbraces hsound]
  dsimp only
  rw [String.toList_ofList]
  generalize firstPlaceholder? _ = found at hfirst ⊢
  subst hfirst
  rfl

/-- The texts of a path that is bound. -/
theorem texts_of_bindPath {c : Command} {path : String}
    (hpath : c.path = String.ofList (renderParts parts)) (hsound : ∀ p ∈ parts, p.Sound)
    (hbraces : BraceFree c.flags.values) (hbind : bindPath c bound = .ok path) :
    path = String.ofList (renderParts (parts.map (PathPart.filled (c.pathText bound)))) := by
  rw [bindPath_renderParts hpath hsound hbraces] at hbind
  split at hbind
  · cases hbind
  · next hnone =>
    cases hbind
    rw [List.findSome?_map, List.findSome?_eq_none_iff] at hnone
    congr 2
    refine List.map_congr_left fun part hpart => PathPart.substitute_eq_filled fun name hname => ?_
    have hleft := hnone part hpart
    rw [hname, Function.comp_apply, PathPart.substitute] at hleft
    cases htext : textOf? bound c.flags.values name with
    | none =>
      rw [htext] at hleft
      cases hleft
    | some text => rw [Command.pathText, htext, Option.getD_some]

end ApiCli

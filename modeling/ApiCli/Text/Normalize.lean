import ApiCli.Text.CombiningClass
import ApiCli.Text.Composition

/-! # Normal form

A text can write an accented letter as one character or as a letter and a mark, and several marks
in any order. `normalize` chooses the form in which marks are in the order of their classes and
every character is composed as far as it can be. -/

namespace ApiCli.Text

/-- How often the first part of a character can have parts again. -/
def partsDepth : Nat := 3

/-- The parts of a character, those of its first part and so on, down to a depth. -/
def partsTo : Nat → Char → List Char
  | 0, c => [c]
  | depth + 1, c =>
    match parts? c with
    | some (a, b) => partsTo depth a ++ [b]
    | none => [c]

/-- Every character replaced by all of its parts. -/
def decompose (s : List Char) : List Char := s.flatMap (partsTo partsDepth)

/-- A character put in front of an ordered text: a mark goes behind the marks of lower classes. -/
def insertMark (c : Char) : List Char → List Char
  | [] => [c]
  | d :: rest =>
    if 0 < combiningClass d && combiningClass d < combiningClass c then d :: insertMark c rest
    else c :: d :: rest

/-- The marks that stand together in the order of their classes. -/
def orderMarks (s : List Char) : List Char := s.foldr insertMark []

/-- Composes the character `starter` with what comes after it. `skipped` are the marks between,
backwards, which did not compose; a mark is only composed if it is of a higher class than
these. -/
def composeAfter (starter : Char) (skipped : List Char) : List Char → List Char
  | [] => starter :: skipped.reverse
  | c :: rest =>
    let isBlocked := skipped.head?.any fun mark => combiningClass c ≤ combiningClass mark
    match if isBlocked then none else compose? starter c with
    | some composed => composeAfter composed skipped rest
    | none =>
      if combiningClass c = 0 then starter :: skipped.reverse ++ composeAfter c [] rest
      else composeAfter starter (c :: skipped) rest

/-- A text with its characters composed; marks at its beginning stay. -/
def compose : List Char → List Char
  | [] => []
  | c :: rest => if combiningClass c = 0 then composeAfter c [] rest else c :: compose rest

/-- The normal form of a text. ASCII is its own. -/
def normalize (s : List Char) : List Char :=
  if s.all fun c => c.toNat < 128 then s else compose (orderMarks (decompose s))

end ApiCli.Text

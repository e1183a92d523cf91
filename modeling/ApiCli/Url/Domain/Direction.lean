import ApiCli.Text.BidiClass

/-! # Directions of labels

In a domain name with a character that is written from right to left, every label must have one
direction, given by its first character, so that labels do not run into each other when they are
shown. -/

namespace ApiCli.Domain

open Text (BidiClass)

/-- Whether a character is written from right to left. -/
def runsLeft (c : Char) : Bool :=
  128 ≤ c.toNat && [.right, .arabicLetter, .arabicNumber].contains (BidiClass.ofChar c)

/-- The classes of signs, which a label of either direction can have inside. -/
def neutralClasses : List BidiClass :=
  [.europeanSeparator, .commonSeparator, .europeanTerminator, .otherNeutral, .boundaryNeutral,
    .nonspacingMark]

/-- Whether classes are those of a label from left to right. Its last character, up to marks, is
a letter or a digit. -/
def isLeftToRight (classes : List BidiClass) : Bool :=
  classes.all (fun k => k = .left || k = .europeanNumber || neutralClasses.contains k) &&
    classes.getLast?.any fun k => k = .left || k = .europeanNumber

/-- Whether classes are those of a label from right to left. Its last character, up to marks, is
a letter or a digit, and its digits are of one kind. -/
def isRightToLeft (classes : List BidiClass) : Bool :=
  let ends : List BidiClass := [.right, .arabicLetter, .europeanNumber, .arabicNumber]
  classes.all (fun k => ends.contains k || neutralClasses.contains k) &&
    classes.getLast?.any (ends.contains ·) &&
    !(classes.contains .europeanNumber && classes.contains .arabicNumber)

/-- Whether a label has one direction; an empty one has. -/
def hasDirection (label : List Char) : Bool :=
  let classes := label.map BidiClass.ofChar
  match classes with
  | [] => true
  | first :: rest =>
    let classes := first :: (rest.reverse.dropWhile (· = .nonspacingMark)).reverse
    match first with
    | .left => isLeftToRight classes
    | .right | .arabicLetter => isRightToLeft classes
    | _ => false

end ApiCli.Domain

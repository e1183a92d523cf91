import ApiCli.Text.CombiningClass
import ApiCli.Text.JoiningType
import ApiCli.Text.Mark
import ApiCli.Text.Normalize
import ApiCli.Url.Domain.Mapping
import ApiCli.Url.Punycode

/-! # Labels of domain names

A label is one of the texts between the dots of a domain name. `Label.ofText?` reads it from a
text in normal form. What it shows can be written in Punycode behind `xn--`; that must then be
the only way to write it. -/

namespace ApiCli.Domain

open Text (JoiningType)

/-- The ASCII characters that cannot stand in a domain name: controls, the blank, and those that
mean something in a URL. -/
def isForbidden (c : Char) : Bool :=
  c ≤ ' ' || c = '\x7f' ||
    ['%', '#', '/', ':', '<', '>', '?', '@', '[', '\\', ']', '^', '|'].contains c

/-! ## Joiners -/

/-- The sign that joins two characters. -/
def joiner : Char := '\u200D'

/-- The sign that keeps two characters apart. -/
def nonJoiner : Char := '\u200C'

/-- Whether the first letter of a text that takes part in joining is of one of the types. -/
def beginsJoined (types : List JoiningType) : List Char → Bool
  | [] => false
  | c :: rest =>
    let type := JoiningType.ofChar c
    types.contains type || (type = .transparent && beginsJoined types rest)

/-- Whether a joiner has an effect between the text before it, given backwards, and the text
after it: behind a sign that takes a vowel away, or where it keeps apart two letters that would
be joined. -/
def isJoinerInPlace (before : List Char) (c : Char) (after : List Char) : Bool :=
  before.head?.any (fun previous => Text.combiningClass previous = Text.viramaClass) ||
    (c = nonJoiner && beginsJoined [.left, .dual] before && beginsJoined [.right, .dual] after)

/-- Whether all joiners of a text have an effect; `before` is the text before it, backwards. -/
def joinersInPlace (before : List Char) : List Char → Bool
  | [] => true
  | c :: after =>
    (!(c = joiner || c = nonJoiner) || isJoinerInPlace before c after) &&
      joinersInPlace (c :: before) after

/-! ## Labels -/

/-- The mark of a label in Punycode. -/
def acePrefix : List Char := ['x', 'n', '-', '-']

/-- The length of the longest label that is written in Punycode. -/
def maxEncoded : Nat := 1000

/-- The length of the longest text that is read as Punycode. -/
def maxDecoded : Nat := 2000

structure Label where
  /-- What it shows. -/
  meaning : List Char
  /-- How it is looked up. -/
  ascii : List Char
  deriving DecidableEq, Repr

namespace Label

/-- Whether a text beyond ASCII can be what a label shows. -/
def isMeaning (s : List Char) : Bool :=
  s.length ≤ maxEncoded && !s.head?.any Text.isMark && joinersInPlace [] s

/-- The label written in Punycode, from the text behind the mark. What it shows must be in normal
form, and the text must be how that is written. -/
def ofPunycode? (s : List Char) : Option Label := do
  if maxDecoded < s.length then none
  let meaning ← Punycode.decode? s
  if Punycode.encode meaning ≠ s || meaning.all (fun c => c.toNat < 128) ||
      meaning.any (fun c => c = '.' || isForbidden c) ||
      (map? meaning).map Text.normalize ≠ some meaning || !isMeaning meaning then none
  return ⟨meaning, acePrefix ++ s⟩

def ofText? (s : List Char) : Option Label :=
  if acePrefix.isPrefixOf s then ofPunycode? (s.drop acePrefix.length)
  else if s.all fun c => c.toNat < 128 then some ⟨s, s⟩
  else if isMeaning s then some ⟨s, acePrefix ++ Punycode.encode s⟩
  else none

end Label

end ApiCli.Domain

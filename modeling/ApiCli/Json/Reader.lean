import ApiCli.Json.Token
import ApiCli.Text.Utf8

/-! # Reading JSON

The grammar of JSON as a pushdown automaton over tokens.

* `Frame` is an open array or object that waits for a value, `Place` says what may come next.
* `read` reads one value and nothing after it. From a text with a fault it takes what is complete
  of the outermost array or object.
* `parse?` reads a text to a canonical value, `parseBytes?` reads octets, which must be UTF-8. -/

namespace ApiCli.Json

/-- An open array or object in front of the value it waits for. What it holds already is kept
backwards. -/
inductive Frame where
  | item (before : List Written)
  | member (before : List (List Char × Written)) (key : List Char)

/-- What an open array or object holds. -/
def Frame.held : Frame → Written
  | item before => .array before.reverse
  | member before _ => .object before.reverse

/-- What may come next, within the open frames `outer`. -/
inductive Place where
  /-- A value. -/
  | needValue (outer : List Frame)
  /-- The first item of an array, or its end. -/
  | firstItem (outer : List Frame)
  /-- A comma or the end of an array. -/
  | afterItem (before : List Written) (outer : List Frame)
  /-- The first key of an object, or its end. -/
  | firstKey (outer : List Frame)
  /-- A further key of an object. -/
  | nextKey (before : List (List Char × Written)) (outer : List Frame)
  /-- The colon after a key. -/
  | needColon (before : List (List Char × Written)) (key : List Char) (outer : List Frame)
  /-- A comma or the end of an object. -/
  | afterMember (before : List (List Char × Written)) (outer : List Frame)
  /-- Nothing: the value is complete. -/
  | complete (result : Written)

namespace Place

def close (value : Written) : List Frame → Place
  | [] => complete value
  | .item before :: outer => afterItem (value :: before) outer
  | .member before key :: outer => afterMember ((key, value) :: before) outer

/-- The place after the first token of a value. -/
def enter (outer : List Frame) : Token → Option Place
  | .scalar value => some (close value outer)
  | .beginArray => some (firstItem outer)
  | .beginObject => some (firstKey outer)
  | _ => none

def step : Place → Token → Option Place
  | needValue outer, t => enter outer t
  | firstItem outer, .endArray => some (close (.array []) outer)
  | firstItem outer, t => enter (.item [] :: outer) t
  | afterItem before outer, .comma => some (needValue (.item before :: outer))
  | afterItem before outer, .endArray => some (close (.array before.reverse) outer)
  | afterItem .., _ => none
  | firstKey outer, .endObject => some (close (.object []) outer)
  | firstKey outer, .scalar (.string k) => some (needColon [] k outer)
  | firstKey _, _ => none
  | nextKey before outer, .scalar (.string k) => some (needColon before k outer)
  | nextKey .., _ => none
  | needColon before k outer, .colon => some (needValue (.member before k :: outer))
  | needColon .., _ => none
  | afterMember before outer, .comma => some (nextKey before outer)
  | afterMember before outer, .endObject => some (close (.object before.reverse) outer)
  | afterMember .., _ => none
  | complete _, _ => none

def isComplete : Place → Bool
  | complete _ => true
  | _ => false

/-- All tokens of the rest of a text up to the first fault, and whether there is none. -/
def run : Place → List Token → Place × Bool
  | p, [] => (p, p.isComplete)
  | p, t :: rest =>
    match p.step t with
    | none => (p, false)
    | some p => run p rest

/-- The value, or what is complete of the outermost array or object. -/
def outermost? : Place → Option Written
  | complete value => some value
  | needValue outer => outer.getLast?.map Frame.held
  | firstItem outer => some ((outer.getLast?.map Frame.held).getD (.array []))
  | afterItem before outer =>
    some ((outer.getLast?.map Frame.held).getD (.array before.reverse))
  | firstKey outer => some ((outer.getLast?.map Frame.held).getD (.object []))
  | nextKey before outer | needColon before _ outer | afterMember before outer =>
    some ((outer.getLast?.map Frame.held).getD (.object before.reverse))

end Place

structure Reading where
  /-- The value, or what is complete of the outermost array or object before the first fault. -/
  written? : Option Written
  /-- Whether the text has no fault. -/
  isWhole : Bool

def read (text : List Char) : Reading :=
  let (tokens, isWhole) := lex text
  let (place, isComplete) := (Place.needValue []).run tokens
  ⟨place.outermost?, isWhole && isComplete⟩

def parse? (text : List Char) : Option Json :=
  let reading := read text
  if reading.isWhole then (reading.written?.bind Written.value?).map canonical else none

/-- The canonical value of a sequence of octets. -/
def parseBytes? (bytes : List UInt8) : Option Json := (Utf8.decode? bytes).bind parse?

end ApiCli.Json

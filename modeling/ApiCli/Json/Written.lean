import ApiCli.Json.Numeral
import ApiCli.Json.Quoted

/-! # JSON as it is written

A `Written` value is a value as it stands in a text: strings are not unescaped, members stand in
the order written, and nothing limits how deep it is nested. `Written.value?` is the value it
stands for. -/

namespace ApiCli

/-- A value as it stands in a text. Strings and keys are what stands between the quotes. -/
inductive Json.Written where
  | null
  | bool (value : Bool)
  /-- A number, by the text kept of it. -/
  | number (text : List Char)
  | string (text : List Char)
  | array (items : List Json.Written)
  | object (members : List (List Char × Json.Written))
  deriving Repr, Inhabited

namespace Json

/-- How deep arrays and objects may nest. -/
def depthLimit : Nat := 127

/-- The string that a text between quotes stands for. -/
def unquote? (text : List Char) : Option String := (unescape? text).map String.ofList

namespace Written

mutual

/-- The value that is written, with at most `depth` arrays and objects around each other. -/
def valueWithin? (depth : Nat) : Written → Option Json
  | null => some .null
  | bool b => some (.bool b)
  | number text => some (.number (String.ofList text))
  | string text => (unquote? text).map .string
  | array items =>
    match depth with
    | 0 => none
    | depth + 1 => (itemsWithin? depth items).map .array
  | object members =>
    match depth with
    | 0 => none
    | depth + 1 => (membersWithin? depth members).bind ofMembers?

def itemsWithin? (depth : Nat) : List Written → Option (List Json)
  | [] => some []
  | item :: rest =>
    match valueWithin? depth item with
    | none => none
    | some item => (itemsWithin? depth rest).map (item :: ·)

def membersWithin? (depth : Nat) :
    List (List Char × Written) → Option (List (String × Json))
  | [] => some []
  | (key, value) :: rest =>
    match unquote? key, valueWithin? depth value with
    | some key, some value => (membersWithin? depth rest).map ((key, value) :: ·)
    | _, _ => none

end

/-- The value that is written, with its members in the order written. -/
def value? (w : Written) : Option Json := w.valueWithin? depthLimit

end Written

end Json
end ApiCli

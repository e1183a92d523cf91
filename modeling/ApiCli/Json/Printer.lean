import ApiCli.Json.Basic
import ApiCli.Json.Quoted

/-! # Writing JSON

The compact text of a value: no blanks, members in the order of the value, numbers as they
are. -/

namespace ApiCli.Json

mutual

def write : Json → List Char
  | null => ['n', 'u', 'l', 'l']
  | bool true => ['t', 'r', 'u', 'e']
  | bool false => ['f', 'a', 'l', 's', 'e']
  | number text => text.toList
  | string s => quoted s
  | array items => '[' :: (writeItems items ++ [']'])
  | object members => '\x7b' :: (writeMembers members ++ ['\x7d'])

def writeItems : List Json → List Char
  | [] => []
  | [item] => write item
  | item :: rest => write item ++ ',' :: writeItems rest

def writeMembers : List (String × Json) → List Char
  | [] => []
  | [(key, value)] => quoted key ++ ':' :: write value
  | (key, value) :: rest => quoted key ++ ':' :: (write value ++ ',' :: writeMembers rest)

end

/-- The compact text of a value as a string. -/
def text (j : Json) : String := String.ofList j.write

end ApiCli.Json

import ApiCli.Text.CharRun
import ApiCli.Text.Digits
import ApiCli.Text.Split

/-! # Tables of characters

Large tables of characters are written as texts: entries with blanks or line ends between them,
all numbers in hexadecimal.

* An entry of a table of runs is `AA`, `AA-FF` or, with a stride, `AA-FF/2`.
* An entry of a table with values has these after a colon, as in `AA-FF:10` or `AA:10,11`. Values
  belong to every character of the run (`CharEntry.values`) or move along with it
  (`CharEntry.image`). -/

namespace ApiCli.Text

def tableEntries (table : String) : List (List Char) :=
  let entries := (splitChars '\n' table.toList).flatMap (splitChars ' ')
  entries.filter fun entry => !entry.isEmpty

/-- The number after a mark, or `default` where there is none. -/
def optionalNumber? (default : Nat) : Option (List Char) → Option Nat
  | none => some default
  | some digits => digits? 16 digits

def run? (entry : List Char) : Option CharRun := do
  let (bounds, stride) := breakAt '/' entry
  let (first, last) := breakAt '-' bounds
  let first ← digits? 16 first
  return ⟨first, ← optionalNumber? first last, ← optionalNumber? 1 stride⟩

def tableRuns (table : String) : List CharRun := (tableEntries table).filterMap run?

/-- A run and the values of its characters. -/
structure CharEntry where
  run : CharRun
  values : List Nat
  deriving DecidableEq, Repr

namespace CharEntry

def ofText? (entry : List Char) : Option CharEntry := do
  let (run, values) := breakAt ':' entry
  return ⟨← run? run, ← (splitChars ',' (values.getD [])).mapM (digits? 16)⟩

/-- The characters that `c` stands for: the values, a single one of which moves along with the
run. -/
def image (e : CharEntry) (c : Char) : List Char :=
  match e.values with
  | [value] => [Char.ofNat (value + (c.toNat - e.run.first))]
  | values => values.map Char.ofNat

end CharEntry

/-- The entries of a table with values. -/
def tableOf (table : String) : List CharEntry := (tableEntries table).filterMap CharEntry.ofText?

def entryOf? (entries : List CharEntry) (c : Char) : Option CharEntry :=
  entries.find? fun e => e.run.contains c.toNat

/-- Whether a character is in one of the runs. -/
def inRuns (runs : List CharRun) (c : Char) : Bool := runs.any fun r => r.contains c.toNat

end ApiCli.Text

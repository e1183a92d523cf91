import ApiCli.Arguments.Basic
import ApiCli.Arguments.Value

/-! # Reading one level of a command line

A command line has two levels: the program's, up to the word that calls a subcommand, and the
subcommand's, which is the rest. `Level.scan` reads one of them.

* `Word.ofString` classifies a word by its hyphens.
* `Reading` holds what has been found and what is still open: a value can be awaited, or
  collected but not yet looked at. `Reading.settle` closes what is open; it comes before
  anything else is added, so the first fault in the line is the one reported.
* After the word `--` no further word is accepted. -/

namespace ApiCli

/-- The arguments and words that a level accepts. -/
structure Level where
  arguments : List Argument
  subcommands : List Subcommand
  /-- Whether `--help` and `-h` are accepted. -/
  offersHelp : Bool

namespace Level

def argument? (l : Level) (name : String) : Option Argument :=
  l.arguments.find? fun a => a.name = name

def short? (l : Level) (c : Char) : Option Argument :=
  l.arguments.find? fun a => a.short = some c

end Level

/-- The word that asks for help about a subcommand. -/
def helpWord : String := "help"

inductive Call where
  | subcommand (s : Subcommand)
  /-- Help. A subcommand named like the help word cannot be called by its name. -/
  | help

/-- What a word calls at a level. Help is offered where there are subcommands, and a
subcommand with that word among its aliases comes first. -/
def Level.call? (l : Level) (word : String) : Option Call :=
  match l.subcommands.find? fun s => s.isNamed word with
  | some s => some (if s.name = helpWord then .help else .subcommand s)
  | none => if !l.subcommands.isEmpty && word = helpWord then some .help else none

/-- A word, by its hyphens. -/
inductive Word where
  /-- `--` by itself. -/
  | escape
  /-- `--name` or `--name=value`. -/
  | long (name : String) (value : Option String)
  /-- A hyphen and short aliases, perhaps with a value. -/
  | short (cluster : List Char)
  /-- Anything else, a single hyphen included. -/
  | plain

def Word.ofString (s : String) : Word :=
  match s.toList with
  | ['-', '-'] => escape
  | '-' :: '-' :: rest =>
    let (name, value) := Text.breakAt '=' rest
    long (String.ofList name) (value.map String.ofList)
  | '-' :: c :: rest => short (c :: rest)
  | _ => plain

/-- What is open after a word. -/
inductive Open where
  | nothing
  /-- The next word is the argument's value. -/
  | awaiting (a : Argument)
  /-- The argument's value has been seen. -/
  | collected (a : Argument) (value : String)

/-- What has been found at a level. -/
structure Reading where
  given : Dict Given
  current : Open
  /-- Whether `--` has been seen. -/
  escaped : Bool

namespace Reading

def start : Reading := ⟨Dict.empty, .nothing, false⟩

end Reading

/-- Add values of an argument to what is given. Values of a repeatable argument are cut at
commas and come after those given before; another argument is given once. -/
def addGiven (given : Dict Given) (a : Argument) (source : ValueSource) (words : List String) :
    Except ArgumentError (Dict Given) :=
  let words := if a.isRepeatable then words.flatMap (Text.splitOn ',') else words
  let before := ((given.get? a.name).map (·.values)).getD []
  if !a.isRepeatable && given.contains a.name then .error .repeatedArgument
  else
    match words.mapM a.type.scalar.read? with
    | none => .error .invalidValue
    | some values => .ok (given.insert a.name ⟨source, before ++ values⟩)

namespace Reading

/-- What is given once nothing is open. An awaited value is missing. -/
def settle (r : Reading) : Except ArgumentError (Dict Given) :=
  match r.current with
  | .nothing => .ok r.given
  | .awaiting _ => .error .missingValue
  | .collected a value => addGiven r.given a .commandLine [value]

def give (r : Reading) (a : Argument) (value : String) : Except ArgumentError Reading := do
  let given ← addGiven (← r.settle) a .commandLine [value]
  return { r with given, current := .nothing }

def await (r : Reading) (a : Argument) : Except ArgumentError Reading := do
  return { r with given := ← r.settle, current := .awaiting a }

def askHelp (r : Reading) : Except ArgumentError Reading := do
  discard r.settle
  throw .help

/-- A long name with the value after its equals sign. -/
def long (l : Level) (r : Reading) (name : String) (value : Option String) :
    Except ArgumentError Reading :=
  match l.argument? name with
  | some a =>
    match value with
    | some value => r.give a value
    | none => if a.isSwitch then r.give a "true" else r.await a
  | none =>
    if l.offersHelp && name = helpWord then
      match value with
      | some _ => .error .unexpectedValue
      | none => r.askHelp
    else .error .unknownArgument

/-- Short aliases one after the other. The first argument that is no switch takes the rest of
the word as its value; an equals sign before a value is dropped. -/
def short (l : Level) (r : Reading) : List Char → Except ArgumentError Reading
  | [] => .ok r
  | c :: rest =>
    match l.short? c with
    | some a =>
      match rest with
      | '=' :: value => r.give a (String.ofList value)
      | rest =>
        if a.isSwitch then do short l (← r.give a "true") rest
        else
          match rest with
          | [] => r.await a
          | value => r.give a (String.ofList value)
    | none => if l.offersHelp && c = 'h' then r.askHelp else .error .unknownArgument

end Reading

/-- The fault of a word in a place where no value and no subcommand is accepted. -/
def Level.strayWord (l : Level) (escaped : Bool) (word : String) : ArgumentError :=
  if escaped && (l.call? word).isSome then .unknownArgument
  else if l.subcommands.isEmpty then .unknownArgument
  else .invalidSubcommand

/-- One word, other than one that calls something: what is found after it. -/
def Reading.read (l : Level) (r : Reading) (word : String) : Except ArgumentError Reading :=
  if r.escaped then .error (l.strayWord true word)
  else
    match Word.ofString word with
    | .escape => .ok { r with escaped := true }
    | .long name value => r.long l name value
    | .short cluster => r.short l cluster
    | .plain =>
      match r.current with
      | .awaiting a => .ok { r with current := .collected a word }
      | _ => .error (l.strayWord false word)

/-- Whether a word can call something: not after `--`, and not in the place of a value. -/
def Reading.acceptsCall (r : Reading) : Bool :=
  !r.escaped &&
    match r.current with
    | .awaiting _ => false
    | _ => true

/-- The words of a level: what is found, and what is called with the words after it. -/
def Level.scan (l : Level) (r : Reading) :
    List String → Except ArgumentError (Reading × Option (Call × List String))
  | [] => .ok (r, none)
  | word :: rest =>
    match if r.acceptsCall then l.call? word else none with
    | some call => .ok (r, some (call, rest))
    | none =>
      match r.read l word with
      | .error e => .error e
      | .ok r => l.scan r rest

/-! ## What is not on the command line -/

/-- Values from the environment for arguments that are not given. -/
def addEnvironment (env : Environment) (given : Dict Given) (arguments : List Argument) :
    Except ArgumentError (Dict Given) :=
  arguments.foldlM
    (fun given a =>
      if given.contains a.name then .ok given
      else
        match a.env.bind env with
        | none => .ok given
        | some value => addGiven given a .environment [value])
    given

/-- Default values for arguments that are not given. -/
def addDefaults (given : Dict Given) (arguments : List Argument) :
    Except ArgumentError (Dict Given) :=
  arguments.foldlM
    (fun given a =>
      if given.contains a.name || a.defaults.isEmpty then .ok given
      else addGiven given a .default a.defaults)
    given

/-- Close a level: what is open is settled, then the environment and the defaults fill in. -/
def Reading.close (env : Environment) (arguments : List Argument) (r : Reading) :
    Except ArgumentError (Dict Given) := do
  addDefaults (← addEnvironment env (← r.settle) arguments) arguments

end ApiCli

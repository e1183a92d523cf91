import ApiCli.Arguments.Parse
import ApiCli.Text.Uppercase

/-! # Client configuration

`Config` is what a client is set up with, before any document is known. The three global
arguments come from it: the base URL of the API, the path of its document and the path of its
health check. Each can be given on the command line or in the environment, under a variable
named after the client.

* `Config.globalArguments` describes the three arguments.
* `globalWords` keeps only those words of a command line that concern them, and
  `Config.parseGlobals` reads these words by themselves. -/

namespace ApiCli

structure Config where
  /-- The program's name, which is also the user agent. -/
  name : String
  about : String
  baseUrl : String
  /-- The path of the document on the remote. -/
  specPath : String
  /-- The path of the health check; empty for none. -/
  healthPath : String
  /-- What to print when the health check fails. -/
  healthFailedMessage : Option String
  /-- Whether the command line is sent along with each command. -/
  sendRawArgs : Bool
  /-- How long a request may take, in milliseconds. -/
  timeout : Option Nat
  deriving DecidableEq, Repr

/-- The global argument for the base URL. -/
def baseUrlFlag : String := "base-url"

/-- The global argument for the path of the document. -/
def specPathFlag : String := "swagger-path"

/-- The global argument for the path of the health check. -/
def healthPathFlag : String := "health-path"

def globalFlags : List String := [baseUrlFlag, specPathFlag, healthPathFlag]

namespace Config

def new (name about baseUrl : String) : Config :=
  { name, about, baseUrl
    specPath := "/swagger.json"
    healthPath := ""
    healthFailedMessage := none
    sendRawArgs := false
    timeout := none }

/-- The beginning of the names of the client's environment variables. -/
def envPrefix (c : Config) : String :=
  String.ofList ((Text.uppercase c.name).toList.map fun x => if x = '-' then '_' else x)

/-- A global argument and its variable, whose name ends in `suffix`. -/
def globalArgument (c : Config) (name suffix help : String) (defaults : List String) :
    Argument :=
  { name, help, defaults
    short := none
    required := false
    isGlobal := true
    type := .single .string
    env := some (c.envPrefix ++ suffix) }

/-- The global arguments. There is no default for an empty path of the health check. -/
def globalArguments (c : Config) : List Argument :=
  [c.globalArgument baseUrlFlag "_BASE_URL" "API base URL" [c.baseUrl],
   c.globalArgument specPathFlag "_SWAGGER_PATH" "Path of the swagger document on the remote"
     [c.specPath],
   c.globalArgument healthPathFlag "_HEALTH_PATH"
     "Health check path on the remote; empty to skip"
     (if c.healthPath = "" then [] else [c.healthPath])]

/-- The command line as far as it is known without a document. -/
def bootstrapTree (c : Config) : CommandTree :=
  { name := c.name
    about := none
    arguments := c.globalArguments
    subcommands := []
    offersHelp := false
    needsSubcommand := false }

end Config

/-- What a word says about global arguments. -/
inductive GlobalWord where
  /-- Nothing. -/
  | unrelated
  /-- A global argument whose value is the next word. -/
  | name
  /-- A global argument with its value. -/
  | assignment
  deriving DecidableEq

/-- What a word other than `--` says about global arguments. -/
def GlobalWord.ofString (word : String) : GlobalWord :=
  match word.toList with
  | '-' :: '-' :: rest =>
    match Text.breakAt '=' rest with
    | (flag, value) =>
      if globalFlags.contains (String.ofList flag) then
        if value.isSome then assignment else name
      else unrelated
  | _ => unrelated

/-- The words that concern global arguments, up to the word `--`. -/
def globalWordsAfter : List String → List String
  | [] => []
  | [word] =>
    if word = "--" then []
    else if GlobalWord.ofString word = .unrelated then [] else [word]
  | word :: next :: rest =>
    if word = "--" then []
    else
      match GlobalWord.ofString word with
      | .name => word :: next :: globalWordsAfter rest
      | .assignment => word :: globalWordsAfter (next :: rest)
      | .unrelated => globalWordsAfter (next :: rest)

/-- The program's name and the words that concern global arguments. -/
def globalWords : List String → List String
  | [] => []
  | program :: rest => program :: globalWordsAfter rest

structure Globals where
  baseUrl : String
  specPath : String
  healthPath : String
  deriving DecidableEq, Repr

/-- The first value of an argument, or the empty string. -/
def firstValue (given : Dict Given) (name : String) : String :=
  ((given.get? name).bind fun g => g.values.head?).getD ""

/-- The global arguments of a finished reading. -/
def Globals.ofGiven (given : Dict Given) : Globals :=
  ⟨firstValue given baseUrlFlag, firstValue given specPathFlag, firstValue given healthPathFlag⟩

/-- Read the global arguments and pass over everything else. -/
def Config.parseGlobals (c : Config) (env : Environment) (args : List String) :
    Except ArgumentError Globals := do
  return Globals.ofGiven (← c.bootstrapTree.parse env (globalWords args)).globals

end ApiCli

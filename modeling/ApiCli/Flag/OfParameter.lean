import ApiCli.Flag.Basic
import ApiCli.Json.Printer
import ApiCli.Log
import ApiCli.Text.Kebab

/-! # From parameters to flags

`Flag.ofParameter` compiles a parameter. A reference gives whatever the registry holds for it,
and fails when it holds nothing. Any other parameter is compiled by itself: one in the body, one
without a name and one of an unsupported type is no flag. -/

namespace ApiCli

/-- Why a parameter could not be compiled. -/
inductive ParameterError where
  | missingReference (reference : String)
  deriving DecidableEq, Repr

def ParameterError.message : ParameterError → String
  | missingReference reference => "missing reference " ++ reference

namespace Flag

mutual

/-- A default as the text of a flag's value: strings as they are, arrays as their items with
commas between them, `null` as nothing, and all else in its JSON spelling. -/
def defaultText : Json → Option String
  | .null => none
  | .string s => some s
  | .array items => some (",".intercalate (defaultTexts items))
  | .bool b => some (Json.bool b).text
  | .number n => some n
  | .object members => some (Json.object members).text

/-- The texts of the items that have one. -/
def defaultTexts : List Json → List String
  | [] => []
  | item :: rest =>
    match defaultText item with
    | some s => s :: defaultTexts rest
    | none => defaultTexts rest

end

/-- The short alias that a parameter wants, if it is one character. -/
def shortOf (p : Parameter) : Logged (Option Char) :=
  match p.short.map String.toList with
  | none | some [] => pure none
  | some [c] => pure (some c)
  | some _ => do
    Logged.note .longShortAlias
    return none

/-- The non-empty value of the variable that a parameter names. -/
def envValue (env : Environment) (p : Parameter) : Option String :=
  (p.env.bind env).filter fun value => value ≠ ""

/-- The flag of a parameter that is declared in place. -/
def ofDeclared (env : Environment) (p : Parameter) : Logged (Option Flag) :=
  if p.location.isBody then pure none
  else if p.name = "" then do
    Logged.note .unnamedParameter
    return none
  else
    match FlagType.ofParameter? p with
    | none => do
      Logged.note .unsupportedType
      return none
    | some type => do
      let supplied := envValue env p
      let short ← shortOf p
      return some {
        name := Text.kebab p.name
        paramName := p.name
        short
        description := p.description.getD ""
        type
        location := p.location
        required := p.required && supplied.isNone
        default := supplied <|> p.default.bind defaultText
        fromEnv := p.env.isSome
        envSupplied := supplied.isSome }

/-- The flag of a parameter, if it is one. -/
def ofParameter (env : Environment) (registry : Registry) (p : Parameter) :
    ExceptT ParameterError Logged (Option Flag) :=
  match p.reference with
  | some reference =>
    match registry.resolve reference with
    | some flag => pure flag
    | none => throw (.missingReference reference)
  | none => ExceptT.lift (ofDeclared env p)

end Flag
end ApiCli

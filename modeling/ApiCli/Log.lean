/-! # Log events

Some steps note what they passed over without failing.

* `Event` is one such note; `Event.severity` and `Event.message` give how it is reported.
* `Logged α` is a value together with the events noted while computing it. The value never
  depends on the events, so statements about results speak of `Logged.value` alone. -/

namespace ApiCli

inductive Severity where
  | warning
  | error
  deriving DecidableEq, Repr

/-- What can be noted without stopping a step. -/
inductive Event where
  /-- An extension of a document had the wrong shape and counts as absent. -/
  | malformedExtension
  /-- A parameter without a name is no flag. -/
  | unnamedParameter
  /-- A parameter of an unsupported type is no flag. -/
  | unsupportedType
  /-- A short alias has to be one character. -/
  | longShortAlias
  /-- A parameter took the name of a global flag. -/
  | shadowedGlobal
  /-- Two flags of a command wanted the same short alias. -/
  | shortAliasTaken
  /-- A command's answer had a status outside 200 to 299. -/
  | unsuccessfulAnswer
  /-- A span's identifiers cannot travel in a header. -/
  | uninjectedSpan
  /-- The user agent cannot travel in a header. -/
  | omittedUserAgent
  /-- The hint about a failed health check could not be written. -/
  | unprintedHint
  /-- The body of an answer could not be read to its end. -/
  | unreadBody
  deriving DecidableEq, Repr

namespace Event

/-- Only a body that cannot be read is an error. -/
def severity : Event → Severity
  | unreadBody => .error
  | _ => .warning

/-- The text under which an event is reported. -/
def message : Event → String
  | malformedExtension => "ignoring malformed swagger-cmd extension"
  | unnamedParameter => "skipping parameter without a name"
  | unsupportedType => "unknown type, skipping flag"
  | longShortAlias => "x-swagger-cmd-short must be a single character, ignoring"
  | shadowedGlobal => "parameter shadows a global flag, skipping"
  | shortAliasTaken => "short alias already in use, ignoring"
  | unsuccessfulAnswer => "non-success response"
  | uninjectedSpan => "failed to inject span context"
  | omittedUserAgent => "invalid user agent, omitting"
  | unprintedHint => "failed to print health hint"
  | unreadBody => "failed to read response body"

end Event

/-- A value and the events noted on the way to it, oldest first. -/
structure Logged (α : Type) where
  value : α
  log : List Event

namespace Logged

instance : Monad Logged where
  pure a := ⟨a, []⟩
  bind x f := ⟨(f x.value).value, x.log ++ (f x.value).log⟩

def note (e : Event) : Logged Unit := ⟨(), [e]⟩

@[simp] theorem value_pure (a : α) : (pure a : Logged α).value = a := rfl

@[simp] theorem value_bind (x : Logged α) (f : α → Logged β) :
    (x >>= f).value = (f x.value).value := rfl

@[simp] theorem log_pure (a : α) : (pure a : Logged α).log = [] := rfl

@[simp] theorem log_bind (x : Logged α) (f : α → Logged β) :
    (x >>= f).log = x.log ++ (f x.value).log := rfl

instance : LawfulMonad Logged :=
  LawfulMonad.mk' Logged
    (fun x => congrArg (Logged.mk x.value) (List.append_nil x.log))
    (fun _ _ => rfl)
    (fun _ _ _ => congrArg (Logged.mk _) (List.append_assoc _ _ _))

end Logged
end ApiCli

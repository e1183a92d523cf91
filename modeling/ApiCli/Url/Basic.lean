import ApiCli.Url.Ipv6

/-! # URLs

The parts of a URL, and its text.

A URL of a special scheme always has a host and a path that begins with a slash. Other schemes
may lack both: `UrlPath.rootless` is a path that is only text. -/

namespace ApiCli

inductive Host where
  /-- A registered name; empty where a scheme allows that. -/
  | name (text : String)
  /-- An address of 32 bits. -/
  | ipv4 (address : Nat)
  /-- An address of eight 16-bit pieces. -/
  | ipv6 (pieces : List Nat)
  deriving DecidableEq, Repr

def Host.text : Host → String
  | name s => s
  | ipv4 address => Ipv4.text address
  | ipv6 pieces => "[" ++ Ipv6.text pieces ++ "]"

/-- The path of a URL, percent-encoded. -/
inductive UrlPath where
  /-- Every segment follows a slash. -/
  | segments (parts : List String)
  /-- A path that does not begin with a slash and is not divided. -/
  | rootless (text : String)
  deriving DecidableEq, Repr

def UrlPath.text : UrlPath → String
  | segments parts => String.join (parts.map ("/" ++ ·))
  | rootless s => s

/-- Who is asked, and where: all of a URL that decides where a request goes. -/
structure Authority where
  username : String
  password : Option String
  host : Host
  /-- The port, unless it is the scheme's own. -/
  port : Option Nat
  deriving DecidableEq, Repr

def Authority.text (a : Authority) : String :=
  let password := match a.password with
    | some p => ":" ++ p
    | none => ""
  let user := a.username ++ password
  (if user = "" then "" else user ++ "@") ++ a.host.text ++
    match a.port with
    | some n => ":" ++ toString n
    | none => ""

structure Url where
  scheme : String
  authority : Option Authority
  path : UrlPath
  query : Option String
  fragment : Option String
  deriving DecidableEq, Repr

/-- The text of a URL. A path of several segments that begins with an empty one is kept from
reading as an authority. -/
def Url.text (u : Url) : String :=
  u.scheme ++ ":" ++
    (match u.authority with
    | some a => "//" ++ a.text
    | none =>
      match u.path with
      | .segments ("" :: _ :: _) => "/."
      | _ => "") ++
    u.path.text ++
    (match u.query with
    | some q => "?" ++ q
    | none => "") ++
    match u.fragment with
    | some f => "#" ++ f
    | none => ""

inductive UrlError where
  | relativeWithoutBase
  | emptyHost
  | invalidPort
  | invalidDomain
  | invalidHostCharacter
  | invalidIpv4
  | invalidIpv6
  deriving DecidableEq, Repr

def UrlError.message : UrlError → String
  | relativeWithoutBase => "relative URL without a base"
  | emptyHost => "empty host"
  | invalidPort => "invalid port number"
  | invalidDomain => "invalid international domain name"
  | invalidHostCharacter => "invalid domain character"
  | invalidIpv4 => "invalid IPv4 address"
  | invalidIpv6 => "invalid IPv6 address"

/-! ## Schemes -/

/-- What the rest of a URL looks like. -/
inductive SchemeKind where
  /-- A scheme with an authority, for which a backslash is a slash. -/
  | special
  /-- Files: special, with an authority that may be empty. -/
  | file
  | other
  deriving DecidableEq, Repr

def specialPorts : List (String × Nat) :=
  [("http", 80), ("https", 443), ("ws", 80), ("wss", 443), ("ftp", 21)]

def SchemeKind.ofScheme (scheme : String) : SchemeKind :=
  if scheme = "file" then file
  else if (specialPorts.lookup scheme).isSome then special
  else other

/-- Whether a scheme is special, files included. -/
def SchemeKind.isSpecial (k : SchemeKind) : Bool := k ≠ .other

end ApiCli

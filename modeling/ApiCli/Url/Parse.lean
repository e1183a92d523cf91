import ApiCli.Text.Percent
import ApiCli.Text.Replace
import ApiCli.Url.Basic
import ApiCli.Url.Domain

/-! # Reading URLs

`Url.parse` reads an absolute URL. The text is cleaned, its scheme is taken off, and the rest is
cut at the first `#` and then at the first `?`. What remains is an authority and a path:

* `parseAuthority` reads user, host and port; a host of a special scheme is a domain name or an
  address.
* `resolveSegments` gives the segments of a path, with `.` and `..` carried out. Nothing carries
  a path above its first segment or out of a drive.

Characters that cannot stand in a part are percent-encoded; what is encoded already stays. -/

namespace ApiCli.Url

/-! ## Characters that are encoded -/

/-- Controls and everything beyond ASCII. -/
def isControl (c : Char) : Bool := c < ' ' || '~' < c

def inFragmentSet (c : Char) : Bool := isControl c || [' ', '"', '<', '>', '\x60'].contains c

def inPathSet (c : Char) : Bool := inFragmentSet c || ['#', '?', '\x7b', '\x7d'].contains c

/-- What is encoded in a user's name or password. -/
def inUserSet (c : Char) : Bool :=
  inPathSet c || ['/', ':', ';', '=', '@', '[', '\\', ']', '^', '|'].contains c

def inQuerySet (k : SchemeKind) (c : Char) : Bool :=
  isControl c || [' ', '"', '#', '<', '>'].contains c || (k.isSpecial && c = '\'')

/-- A part with the characters of a set encoded. -/
def encodePart (inSet : Char → Bool) (s : List Char) : String :=
  String.ofList (Percent.encode inSet s)

/-! ## Cleaning and cutting -/

/-- The text without controls and blanks at its ends, and without tabs and line ends anywhere. -/
def clean (s : List Char) : List Char :=
  let trimmed := ((s.dropWhile (· ≤ ' ')).reverse.dropWhile (· ≤ ' ')).reverse
  trimmed.filter fun c => !(c = '\t' || c = '\n' || c = '\r')

/-- The scheme in lower case, and the text after its colon. -/
def scheme? (s : List Char) : Option (String × List Char) :=
  match Text.breakAt ':' s with
  | (c :: name, some rest) =>
    if c.isAlpha && name.all fun c => c.isAlphanum || c = '+' || c = '-' || c = '.' then
      some (String.ofList ((c :: name).map Char.toLower), rest)
    else none
  | _ => none

/-- Whether a character divides the segments of a path. -/
def isSlash (k : SchemeKind) (c : Char) : Bool := c = '/' || (k.isSpecial && c = '\\')

/-! ## Authorities -/

def parseHost (s : List Char) : Except UrlError Host :=
  match s with
  | '[' :: inner =>
    if inner.getLast? = some ']' then
      match Ipv6.parse? inner.dropLast with
      | some pieces => .ok (.ipv6 pieces)
      | none => .error .invalidIpv6
    else .error .invalidIpv6
  | s =>
    match Domain.toAscii? (Percent.decode (Utf8.encode s)) with
    | none => .error .invalidDomain
    | some [] => .error .emptyHost
    | some domain =>
      if Ipv4.endsInNumber domain then
        match Ipv4.parse? domain with
        | some address => .ok (.ipv4 address)
        | none => .error .invalidIpv4
      else .ok (.name (String.ofList domain))

/-- The characters that cannot stand in the host of any other URL. -/
def isForbiddenInHost (c : Char) : Bool :=
  ['\x00', '\t', '\n', '\r', ' ', '#', '/', ':', '<', '>', '?', '@', '[', '\\', ']', '^',
    '|'].contains c

/-- The host of a URL that is not special: an address in brackets, or text as it is. -/
def parsePlainHost (s : List Char) : Except UrlError Host :=
  match s with
  | '[' :: _ => parseHost s
  | s =>
    if s.any isForbiddenInHost then .error .invalidHostCharacter
    else .ok (.name (encodePart isControl s))

/-- The text up to the first colon outside brackets, and the text from there on. -/
def breakAtPort (inBrackets : Bool) : List Char → List Char × List Char
  | [] => ([], [])
  | c :: rest =>
    if c = ':' && !inBrackets then ([], c :: rest)
    else
      let (host, port) := breakAtPort (c = '[' || (inBrackets && c ≠ ']')) rest
      (c :: host, port)

/-- The text before the last `@` and the text after it. -/
def breakAtUser? (s : List Char) : Option (List Char × List Char) :=
  if s.contains '@' then
    let host := (s.reverse.takeWhile (· ≠ '@')).reverse
    some ((s.take (s.length - host.length)).dropLast, host)
  else none

/-- The port after a colon, if it is not the scheme's own, and what follows its digits: nothing,
or a path that begins with a backslash. -/
def parsePort (scheme : String) (s : List Char) :
    Except UrlError (Option Nat × List Char) :=
  let digits := s.takeWhile Char.isDigit
  let rest := s.dropWhile Char.isDigit
  let port := Text.decimal digits
  if 65535 < port then .error .invalidPort
  else
    match rest with
    | [] | '\\' :: _ =>
      .ok (if digits.isEmpty || specialPorts.lookup scheme = some port then none else some port,
        rest)
    | _ => .error .invalidPort

/-- The name and password of a user. -/
def parseUser (s : List Char) : String × Option String :=
  match Text.breakAt ':' s with
  | (name, some (c :: password)) =>
    (encodePart inUserSet name, some (encodePart inUserSet (c :: password)))
  | (name, _) => (encodePart inUserSet name, none)

/-- The authority between the slashes and the path, and what of it belongs to the path. The
text is at the end of the URL when `atEnd`. -/
def parseAuthority (scheme : String) (atEnd : Bool) (s : List Char) :
    Except UrlError (Authority × List Char) := do
  let special := (SchemeKind.ofScheme scheme).isSpecial
  let (user, rest) := match breakAtUser? s with
    | none => (none, s)
    | some (user, rest) => (some user, rest)
  if user = some [] && rest.isEmpty && !atEnd then throw .emptyHost
  let (username, password) := parseUser (user.getD [])
  let (host, port) := breakAtPort false rest
  if host.isEmpty && (special || !port.isEmpty || username ≠ "" || password.isSome) then
    throw .emptyHost
  let host ← if special then parseHost host else parsePlainHost host
  let (port, rest) ← parsePort scheme (port.drop 1)
  return (⟨username, password, host, port⟩, rest)

/-! ## Paths -/

/-- What a segment of a path does. -/
inductive SegmentKind where
  /-- Stay in place. -/
  | here
  /-- Take the segment before away. -/
  | up
  | plain
  deriving DecidableEq

/-- The kind of a segment; a dot may be percent-encoded. -/
def SegmentKind.ofSegment (s : List Char) : SegmentKind :=
  match Text.replace "%2e" "." (String.ofList (s.map Char.toLower)) with
  | "." => here
  | ".." => up
  | _ => plain

def splitSegments (k : SchemeKind) : List Char → List (List Char)
  | [] => [[]]
  | c :: rest =>
    if isSlash k c then [] :: splitSegments k rest
    else
      match splitSegments k rest with
      | [] => [[c]]
      | segment :: segments => (c :: segment) :: segments

/-- Whether a segment is the letter of a drive, before a colon or a bar. -/
def isDrive : List Char → Bool
  | [letter, mark] => letter.isAlpha && (mark = ':' || mark = '|')
  | _ => false

/-- The segments without the last one, kept backwards. A drive is not left, whatever the scheme;
a backslash may follow its letter. -/
def parentSegments : List String → List String
  | [] => []
  | segment :: before =>
    if isDrive (segment.toList.takeWhile (· ≠ '\\')) then segment :: before else before

/-- The segments with one more, kept backwards. The first segment of a file's path can be a drive,
which has a colon. -/
def addSegment (k : SchemeKind) (before : List String) (segment : List Char) : List String :=
  if k = .file && before.isEmpty && isDrive segment then [String.ofList (segment.take 1 ++ [':'])]
  else encodePart inPathSet segment :: before

/-- The segments of a path, the ones before kept backwards. A path that ends with a dot segment
ends with a slash. -/
def resolveSegments (k : SchemeKind) (before : List String) : List (List Char) → List String
  | [] => before.reverse
  | [last] =>
    match SegmentKind.ofSegment last with
    | .here => ("" :: before).reverse
    | .up => ("" :: parentSegments before).reverse
    | .plain => (addSegment k before last).reverse
  | segment :: rest =>
    match SegmentKind.ofSegment segment with
    | .here => resolveSegments k before rest
    | .up => resolveSegments k (parentSegments before) rest
    | .plain => resolveSegments k (addSegment k before segment) rest

/-- The segments of the path after its first slash. -/
def parseSegments (k : SchemeKind) (s : List Char) : List String :=
  resolveSegments k [] (splitSegments k s)

/-- The path that follows an authority. A special URL has a path even if none is written. -/
def parsePath (k : SchemeKind) (s : List Char) : UrlPath :=
  match s with
  | [] => .segments (if k.isSpecial then [""] else [])
  | c :: rest => .segments (parseSegments k (if isSlash k c then rest else c :: rest))

/-! ## The whole -/

/-- The segments without the empty ones at the beginning, except the last. -/
def dropEmptySegments : List String → List String
  | "" :: s :: rest => dropEmptySegments (s :: rest)
  | segments => segments

/-- The host of a file; the local one is not named. -/
def parseFileHost (s : List Char) : Except UrlError Host :=
  if s.isEmpty then .ok (.name "")
  else
    match parseHost s with
    | .ok (.name "localhost") => .ok (.name "")
    | r => r

/-- The host of a file and its path, from the text after the scheme. Only two slashes announce a
host, and a drive is none. The first slash of a path belongs to its first segment if there is no
host. -/
def breakAtFilePath (s : List Char) : Except UrlError (Host × List Char) := do
  match s with
  | '/' :: '/' :: rest =>
    let host := rest.takeWhile (· ≠ '/')
    let path := rest.dropWhile (· ≠ '/')
    if isDrive host then return (.name "", rest)
    match ← parseFileHost host with
    | .name "" => return (.name "", path)
    | host => return (host, path.drop 1)
  | '/' :: path => return (.name "", path)
  | path => return (.name "", path)

/-- The authority and path of a file. A path on a drive has no host. -/
def parseFile (s : List Char) : Except UrlError (Option Authority × UrlPath) := do
  let (host, path) ← breakAtFilePath (s.map fun c => if isSlash .file c then '/' else c)
  let segments := parseSegments .file path
  let isOnDrive := segments.head?.any fun segment => isDrive segment.toList
  let host := if isOnDrive then .name "" else host
  return (some ⟨"", none, host, none⟩, .segments (dropEmptySegments segments))

/-- The authority and path of any URL, from the text before its query. -/
def parseHierarchy (scheme : String) (atEnd : Bool) (s : List Char) :
    Except UrlError (Option Authority × UrlPath) :=
  let k := SchemeKind.ofScheme scheme
  let withAuthority := fun (s : List Char) => do
    let authority := s.takeWhile (!isSlash k ·)
    let path := s.dropWhile (!isSlash k ·)
    let (authority, rest) ← parseAuthority scheme (atEnd && path.isEmpty) authority
    return (some authority, parsePath k (rest ++ path))
  match k, s with
  | .file, s => parseFile s
  | .special, s => withAuthority (s.dropWhile (isSlash k))
  | .other, '/' :: '/' :: rest => withAuthority rest
  | .other, '/' :: rest => .ok (none, .segments (parseSegments k rest))
  | .other, s => .ok (none, .rootless (encodePart isControl s))

def parse (s : String) : Except UrlError Url :=
  match scheme? (clean s.toList) with
  | none => .error .relativeWithoutBase
  | some (scheme, rest) => do
    let (rest, fragment) := Text.breakAt '#' rest
    let (rest, query) := Text.breakAt '?' rest
    let (authority, path) ←
      parseHierarchy scheme (query.isNone && fragment.isNone) rest
    return {
      scheme, authority, path
      query := query.map (encodePart (inQuerySet (SchemeKind.ofScheme scheme)))
      fragment := fragment.map (encodePart inFragmentSet) }

end ApiCli.Url

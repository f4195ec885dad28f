import Relata.Url.Host
import Relata.Url.Path

/-!
Addresses: a scheme, for most schemes an authority of credentials, a host and its port number, a
path, and a query and a fragment. Reading an address normalizes it; `display` writes the normal
form.
-/

namespace Relata

structure Url.Authority where
  username : String
  password : String
  host : Option Url.Host
  /-- The number after the host, if one is given that is not the scheme's usual one. -/
  portNumber : Option Nat
  deriving DecidableEq

structure Url where
  /-- The scheme in lower case. -/
  scheme : String
  authority : Option Url.Authority
  path : Url.Path
  query : Option String
  fragment : Option String
  deriving DecidableEq

namespace Url

/-- The port number that a scheme implies, if it is known to name hosts of the internet. -/
def defaultPort? : String → Option Nat
  | "http" => some 80
  | "ws" => some 80
  | "https" => some 443
  | "wss" => some 443
  | "ftp" => some 21
  | _ => none

def kindOf (scheme : String) : SchemeKind :=
  if scheme = "file" then .file
  else if (defaultPort? scheme).isSome then .internet
  else .other

/-! ### Reading -/

def trimmed (chars : List Char) : List Char :=
  let isBlank (c : Char) : Bool := c ≤ ' '
  ((chars.dropWhile isBlank).reverse.dropWhile isBlank).reverse

def scheme? (chars : List Char) : Option (String × List Char) :=
  match chars.span fun c => c.isAlphanum || isGap c || "+-.".toList.contains c with
  | (before, ':' :: rest) =>
    let name := withoutGaps before
    if name.head?.any Char.isAlpha then
      some (String.ofList (name.map Char.toLower), rest)
    else none
  | _ => none

/-- Credentials before the last at sign, if there is one, and the rest. -/
def credentials (chars : List Char) : Option (List Char) × List Char :=
  match chars.reverse.span (· != '@') with
  | (rest, _ :: info) => (some info.reverse, rest.reverse)
  | (_, []) => (none, chars)

/-- A host's text up to a colon outside brackets, and the rest. -/
def hostText (inBrackets : Bool) : List Char → List Char × List Char
  | [] => ([], [])
  | c :: rest =>
    if c = ':' && !inBrackets then ([], c :: rest)
    else
      let (host, after) := hostText (c == '[' || (c != ']' && inBrackets)) rest
      (c :: host, after)

/-- The host that a text names; only schemes of no known meaning do without one. -/
def host? (kind : SchemeKind) (chars : List Char) : Except UrlFault (Option Host) :=
  if kind = .other then
    if chars.isEmpty then .ok none else (opaqueHost chars).map some
  else if chars.isEmpty then .error .emptyHost
  else (domainHost chars).map some

/-- A port number and the text after it. The number that the scheme implies counts as none. -/
def readPort (scheme : String) (chars : List Char) : Except UrlFault (Option Nat × List Char) :=
  let (digits, rest) := chars.span Char.isDigit
  let n := (number? 10 digits).getD 0
  let ended := (rest.head?.map fun c => c == '/' || c == '\\' || endsPath c).getD true
  if 65535 < n || !ended then .error .invalidPort
  else
    .ok (if digits.isEmpty || some n == defaultPort? scheme then none else some n, rest)

def readAuthority (scheme : String) (chars : List Char) :
    Except UrlFault (Authority × List Char) := do
  let kind := kindOf scheme
  let (region, tail) := chars.span fun c => !(kind.isSlash c || endsPath c)
  let (info, named) := credentials region
  if info = some [] && named.isEmpty && !tail.isEmpty then throw .emptyHost
  let (text, after) := hostText false named
  let host ← host? kind text
  if host.isNone && !after.isEmpty then throw .emptyHost
  let (portNumber, rest) ← match after with
    | _ :: digits => readPort scheme (digits ++ tail)
    | [] => pure (none, tail)
  let (username, password) := (info.getD []).span (· != ':')
  if host.isNone && !(username.isEmpty && (password.drop 1).isEmpty) then throw .emptyHost
  return (
    ⟨encode userinfoSet username, encode userinfoSet (password.drop 1), host, portNumber⟩, rest)

def readQuery (kind : SchemeKind) (chars : List Char) : Option String × Option String :=
  let (before, after) := (withoutGaps chars).span (· != '#')
  let fragment := match after with
    | [] => none
    | _ :: fragment => some (encode fragmentSet fragment)
  match before with
  | [] => (none, fragment)
  | _ :: query =>
    (some (encode (if kind = .other then querySet else specialQuerySet) query), fragment)

/-- A file's authority has only a host, and the local host is left out. The rest is the path. Where
no host is left, a slash before the path is its first, empty segment. -/
def readFileHost (chars : List Char) : Except UrlFault (Option Host × List Char) := do
  let (before, path) := chars.span fun c => !SchemeKind.file.isSlash c
  let text := withoutGaps before
  if isDrive text then return (none, chars)
  else if text.isEmpty then return (none, path)
  else
    let host ← domainHost text
    if host = .name "localhost" then return (none, path)
    else return (some host, withoutSlash .file path)

/-- The authority and the path of a file. A path that starts with a drive letter is local. -/
def readFile (chars : List Char) : Except UrlFault (Authority × Path) := do
  let (host, text) ← match afterSlash? .file chars with
    | none => pure (none, chars)
    | some path =>
      match afterSlash? .file path with
      | none => pure (none, path)
      | some rest => readFileHost rest
  let path := readPath .file text
  return (
    ⟨"", "", if path.isLocal then none else host, none⟩, .ofSegments (fileSegments path.names))

/-- The authority and the path of an address, and the text after them. -/
def readHierarchy (scheme : String) (text : List Char) :
    Except UrlFault (Option Authority × Path × List Char) :=
  let divide := List.span fun c => !endsPath c
  let chars := withoutGaps text
  match kindOf scheme with
  | .file => do
    let (before, rest) := divide text
    let (authority, path) ← readFile before
    return (some authority, path, rest)
  | .internet => do
    let (authority, after) ← readAuthority scheme (chars.dropWhile SchemeKind.internet.isSlash)
    let (before, rest) := divide after
    return (some authority, .ofSegments (readSegments .internet before), rest)
  | .other =>
    match chars with
    | '/' :: '/' :: chars => do
      let (authority, after) ← readAuthority scheme chars
      let (before, rest) := divide after
      let names := if before.isEmpty then [] else readSegments .other before
      return (some authority, .ofSegments names, rest)
    | '/' :: _ =>
      let (before, rest) := divide chars
      .ok (none, .ofSegments (readSegments .other before), rest)
    | _ =>
      let (before, rest) := divide chars
      .ok (none, .plain (encode controls before), rest)

def parse (text : String) : Except UrlFault Url :=
  match scheme? (trimmed text.toList) with
  | none => .error .relativeWithoutBase
  | some (scheme, rest) => do
    let (authority, path, rest) ← readHierarchy scheme rest
    let (query, fragment) := readQuery (kindOf scheme) rest
    return ⟨scheme, authority, path, query, fragment⟩

/-! ### Writing -/

def Authority.display (authority : Authority) : String :=
  let password := if authority.password = "" then "" else ":" ++ authority.password
  let info := authority.username ++ password
  let host := (authority.host.map Host.display).getD ""
  let portNumber := (authority.portNumber.map fun n => ":" ++ toString n).getD ""
  (if info = "" then "" else info ++ "@") ++ host ++ portNumber

/-- The authority and the path. Without an authority, a path that starts with an empty segment is
set off by a dot, lest the segment after it be read as a host. -/
def hierarchy (url : Url) : String :=
  match url.authority with
  | some authority => "//" ++ authority.display ++ url.path.display
  | none =>
    match url.path with
    | .segments ("" :: _ :: _) => "/." ++ url.path.display
    | path => path.display

def display (url : Url) : String :=
  let query := (url.query.map ("?" ++ ·)).getD ""
  let fragment := (url.fragment.map ("#" ++ ·)).getD ""
  url.scheme ++ ":" ++ url.hierarchy ++ query ++ fragment

end Url

end Relata

import Relata.Text.Split
import Relata.Url.Percent

/-!
Paths of addresses. A path is a list of segments, or a text that is not divided. While segments are
read, one dot is left out and two dots remove the segment before them, but never a drive letter.
Tabs and line ends count for nothing, except that they end a drive letter.
-/

namespace Relata.Url

inductive SchemeKind
  | file
  /-- A scheme that is known to name hosts of the internet. -/
  | internet
  | other
  deriving DecidableEq

/-- The slash divides a path; under a known scheme the backslash does too. -/
def SchemeKind.isSlash (kind : SchemeKind) (c : Char) : Bool :=
  c == '/' || (kind != .other && c == '\\')

/-- A tab or a line end. -/
def isGap (c : Char) : Bool := c == '\t' || c == '\n' || c == '\r'

def withoutGaps (chars : List Char) : List Char := chars.filter (!isGap ·)

def endsPath (c : Char) : Bool := c == '?' || c == '#'

inductive Path
  | plain (text : String)
  | segments (names : List String)
  deriving DecidableEq

def Path.display : Path → String
  | .plain text => text
  | .segments names => String.join (names.map ("/" ++ ·))

/-- A dot may be encoded. -/
def isSingleDot (segment : List Char) : Bool :=
  [".", "%2e"].contains (String.ofList (segment.map Char.toLower))

def isDoubleDot (segment : List Char) : Bool :=
  ["..", ".%2e", "%2e.", "%2e%2e"].contains (String.ofList (segment.map Char.toLower))

/-- A letter before a colon or a bar. -/
def isDrive : List Char → Bool
  | [letter, mark] => letter.isAlpha && (mark == ':' || mark == '|')
  | _ => false

/-- A segment that two dots do not remove: a drive letter, alone or before a backslash. -/
def staysBeforeDots : List Char → Bool
  | letter :: mark :: '\\' :: _ => isDrive [letter, mark]
  | segment => isDrive segment

/-- A drive letter and the rest of its segment, if a gap comes after the drive letter's colon. -/
def brokenDrive? (segment : List Char) : Option (List Char × List Char) :=
  match withoutGaps segment, (segment.dropWhile (· != ':')).drop 1 with
  | letter :: ':' :: c :: rest, next :: _ =>
    if letter.isAlpha && isGap next then some ([letter, ':'], c :: rest) else none
  | _, _ => none

structure PathPrefix where
  names : List (List Char)
  /-- Whether a drive letter came first, so that a file's path is on this host. -/
  isLocal : Bool

/-- Adds a name to those before it. Dots at the end of a path leave an empty name. -/
def addName (path : PathPrefix) (name : List Char) (isLast : Bool) : PathPrefix :=
  let ending := if isLast then [[]] else []
  if isDoubleDot name then
    let kept :=
      if path.names.getLast?.any staysBeforeDots then path.names
      else path.names.dropLast
    { path with names := kept ++ ending }
  else if isSingleDot name then { path with names := path.names ++ ending }
  else { path with names := path.names ++ [name] }

/-- Adds a segment to those before it. A drive letter at the start of a file's path is written with a
colon; one that a gap ends is a name of its own. -/
def addSegment (kind : SchemeKind) (path : PathPrefix) (segment : List Char) (isLast : Bool) :
    PathPrefix :=
  let name := withoutGaps segment
  if kind = .file && path.names.isEmpty then
    match brokenDrive? segment with
    | some (drive, rest) => { path with names := [drive, rest] }
    | none =>
      if isDrive name then ⟨[name.take 1 ++ [':']], true⟩ else addName path name isLast
  else addName path name isLast

/-- Adds segments, the last of which ends the path. -/
def addSegments (kind : SchemeKind) (path : PathPrefix) : List (List Char) → PathPrefix
  | [] => path
  | [segment] => addSegment kind path segment true
  | segment :: next :: rest =>
    addSegments kind (addSegment kind path segment false) (next :: rest)

/-- What follows a slash at the start of a text, if it starts with one. -/
def afterSlash? (kind : SchemeKind) (chars : List Char) : Option (List Char) :=
  match chars.dropWhile isGap with
  | c :: rest => if kind.isSlash c then some rest else none
  | [] => none

/-- A text without a slash at its start. -/
def withoutSlash (kind : SchemeKind) (chars : List Char) : List Char :=
  (afterSlash? kind chars).getD chars

/-- Reads the text of a path after the slash that starts it. -/
def readPath (kind : SchemeKind) (chars : List Char) : PathPrefix :=
  addSegments kind ⟨[], false⟩
    (Text.splitOn '/' (chars.map fun c => if kind.isSlash c then '/' else c))

/-- The segments in the text of a path, which may start with a slash. -/
def readSegments (kind : SchemeKind) (chars : List Char) : List (List Char) :=
  (readPath kind (withoutSlash kind chars)).names

def Path.ofSegments (names : List (List Char)) : Path := .segments (names.map (encode pathSet))

/-- The segments of a file's path: empty ones at its start are left out, but one remains. -/
def fileSegments (names : List (List Char)) : List (List Char) :=
  match names.dropWhile List.isEmpty with
  | [] => [[]]
  | names => names

end Relata.Url

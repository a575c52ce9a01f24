/-
Paths. `addPath` reads a path and adds it, segment by segment, to the one it is
relative to: a segment of one dot stands for the directory itself, a segment of
two dots for the directory above. In the scheme of files a drive letter at the
start is never left.

Tabs and line ends are no part of an address. They stand in the text until here,
because a drive letter at the end of the path so far is looked for whenever text
begins after one of them.
-/
import Grove.Url.Basic

namespace Grove.Url

/-- Tabs and line ends. -/
def isSkipped (c : Char) : Bool := c == '\t' || c == '\n' || c == '\r'

/-- A text without tabs and line ends. -/
def plain (cs : List Char) : List Char := cs.filter (!isSkipped ·)

/-- A slash or a backslash. -/
def isSlash (c : Char) : Bool := c == '/' || c == '\\'

/-- A drive letter with a colon or a bar. -/
def isDrive : List Char → Bool
  | [c, m] => c.isAlpha && (m == ':' || m == '|')
  | _ => false

/-- A drive letter with a colon. -/
def isColonDrive : List Char → Bool
  | [c, m] => c.isAlpha && m == ':'
  | _ => false

/-- Whether a text begins with a drive letter that is not part of a longer
segment. -/
def beginsWithDrive : List Char → Bool
  | c :: m :: rest => isDrive [c, m] && rest.head?.all ['/', '\\', '?', '#'].contains
  | _ => false

/-- A segment that stands for the directory itself. -/
def isSingleDot (segment : List Char) : Bool :=
  segment == ['.'] || segment.map Char.toLower == "%2e".toList

/-- A segment that stands for the directory above. -/
def isDoubleDot (segment : List Char) : Bool :=
  let s := segment.map Char.toLower
  s == "..".toList || s == ".%2e".toList || s == "%2e.".toList || s == "%2e%2e".toList

/-- What stands behind the last slash. -/
def lastSegment (path : List Char) : List Char := (path.reverse.takeWhile (· != '/')).reverse

/-- What stands before the last segment, with the slash. -/
def directory (path : List Char) : List Char := (path.reverse.dropWhile (· != '/')).reverse

/-- A path without its last segment, unless that is a drive letter in the scheme
of files. -/
def dropLastSegment (kind : SchemeKind) (path : List Char) : List Char :=
  if kind == .file && isColonDrive (lastSegment path) then path else directory path

/-- A path that ends with a slash without it. The slash at the start stays, and so
does one behind a drive letter. -/
def dropFinalSlash (path : List Char) : List Char :=
  match path.reverse with
  | '/' :: before =>
    if before.contains '/' && !beginsWithDrive (lastSegment before.reverse ++ ['/']) then
      before.reverse
    else path
  | _ => path

/-- A path that ends with a slash. -/
def withFinalSlash (path : List Char) : List Char :=
  if path.getLast? == some '/' then path else path ++ ['/']

/-- The directory above; `more` tells whether a segment follows. -/
def ascend (kind : SchemeKind) (more : Bool) (path : List Char) : List Char :=
  let path := dropLastSegment kind (dropFinalSlash path)
  if more then withFinalSlash path else path

/-- A path while segments are added, and whether one of them was a drive letter
that begins it. -/
structure PathReader where
  path : List Char
  drive : Bool := false

/-- Adds a part of a segment that begins at a place of the path, and gives the
place again. Behind a drive letter a slash is added first. -/
def addPart (kind : SchemeKind) (s : List Char × Nat) (part : List Char) : List Char × Nat :=
  let (path, place) := s
  let part := encode escapedInPath part
  if kind == .file && isColonDrive path.tail then (path ++ '/' :: part, place + 1)
  else (path ++ part, place)

namespace PathReader

/-- Adds a segment; `more` tells whether another one follows. -/
def addSegment (kind : SchemeKind) (more : Bool) (s : PathReader) (segment : List Char) :
    PathReader :=
  let parts := (segment.splitOnP isSkipped).filter (!·.isEmpty)
  let (path, place) := parts.foldl (addPart kind) (s.path, s.path.length)
  let before := path.take place
  let added := path.drop place
  if isDoubleDot added then { s with path := ascend kind more before }
  else if isSingleDot added then { s with path := withFinalSlash before }
  else
    let slash := if more then ['/'] else []
    if kind == .file && place == 1 && isDrive added then
      { path := before ++ added.take 1 ++ ':' :: slash, drive := true }
    else { s with path := path ++ slash }

/-- Adds segments. -/
def addSegments (kind : SchemeKind) (s : PathReader) : List (List Char) → PathReader
  | [] => s
  | segment :: rest => (s.addSegment kind (!rest.isEmpty) segment).addSegments kind rest

end PathReader

/-- Reads a path relative to another one. In the scheme of files it begins with
one slash. -/
def addPath (kind : SchemeKind) (path cs : List Char) : PathReader :=
  let s := PathReader.addSegments kind { path } (cs.splitOnP kind.separates)
  if kind == .file then { s with path := '/' :: s.path.dropWhile (· == '/') } else s

end Grove.Url

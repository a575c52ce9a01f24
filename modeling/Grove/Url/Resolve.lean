/-
References: `parse?` reads an absolute address, `join?` reads a reference
relative to an address, and `resolve` does both for a base and an identifier
that may be anything.
-/
import Grove.Url.Authority

namespace Grove.Url

/-- A reference without its scheme. The front, which is everything before the
query, still holds tabs and line ends. -/
structure Reference where
  front : List Char
  query : Option (List Char)
  fragment : Option (List Char)

namespace Reference

/-- Cuts off query and fragment. -/
def ofText (kind : SchemeKind) (cs : List Char) : Reference :=
  let (body, fragment) := cutBefore '#' cs
  let (front, query) := cutBefore '?' body
  { front
    query := query.map fun q => encode (escapedInQuery kind.isFixed) (plain q)
    fragment := fragment.map fun f => encode escapedInFragment (plain f) }

/-- Whether anything follows the front. -/
def hasMore (r : Reference) : Bool := r.query.isSome || r.fragment.isSome

/-- The number of slashes and backslashes at the start. -/
def slashes (r : Reference) : Nat := ((plain r.front).takeWhile isSlash).length

/-- What follows the slashes and backslashes at the start. -/
def behindSlashes (r : Reference) : List Char :=
  r.front.dropWhile fun c => isSkipped c || isSlash c

end Reference

/-- A text without its first character that is no tab and no line end. -/
def behindFirst (cs : List Char) : List Char := (cs.dropWhile isSkipped).drop 1

/-- A path behind an authority. With a fixed syntax there is one always. -/
def pathBehind (kind : SchemeKind) (cs : List Char) : PathReader :=
  match (plain cs).head? with
  | none => if kind.isFixed then addPath kind ['/'] [] else { path := [] }
  | some c =>
    if kind.isFixed then addPath kind ['/'] (if isSlash c then behindFirst cs else cs)
    else addPath kind (if c == '/' then [] else ['/']) cs

/-- Reads what follows two slashes. -/
def behindScheme? (scheme : List Char) (r : Reference) (cs : List Char) : Option Url := do
  let (authority, rest) ← authority? scheme cs r.hasMore
  some
    { scheme
      authority := some authority
      path := (pathBehind (schemeKind scheme) rest).path
      query := r.query
      fragment := r.fragment }

/-- An address with another query, if one is given, and another fragment. -/
def withReference (base : Url) (r : Reference) : Url :=
  { base with
    query := if r.query.isSome then r.query else base.query
    fragment := r.fragment }

/-- An address with another path, query and fragment. -/
def withPath (base : Url) (r : Reference) (path : List Char) : Url :=
  { base with path, query := r.query, fragment := r.fragment }

/-- The address of a file. -/
def ofFile (r : Reference) (host path : List Char) : Url :=
  ⟨fileScheme, some { host }, path, r.query, r.fragment⟩

/-- Reads what follows two slashes in the scheme of files: a host or a drive
letter. A drive letter takes the place of a host, and so does the name of the
machine itself, which is left out. -/
def fileBehindSlashes? (r : Reference) (cs : List Char) : Option Url := do
  let name := plain (cs.takeWhile (!isSlash ·))
  let rest := cs.dropWhile (!isSlash ·)
  if isDrive name then some (ofFile r [] (addPath .file ['/'] cs).path)
  else
    let host ← if name.isEmpty then some [] else hostText? true name
    if host.isEmpty || host == "localhost".toList then
      some (ofFile r [] (addPath .file ['/'] rest).path)
    else
      let s := pathBehind .file rest
      some (ofFile r (if s.drive then [] else host) s.path)

/-- Reads what follows one slash in the scheme of files: a path on the drive, or
else on the host, of the base. -/
def fileOnDrive (base : Option Url) (r : Reference) : Url :=
  let path := (base.map (·.path)).getD []
  let drive := path.tail.takeWhile (· != '/')
  let host := ((base.bind (·.authority)).map (·.host)).getD []
  let (host, path) :=
    if beginsWithDrive (plain (behindFirst r.front)) then ([], [])
    else if isColonDrive drive then ([], '/' :: drive)
    else (host, [])
  ofFile r host (addPath .file path r.front).path

/-- Reads a reference in the scheme of files. -/
def file? (base : Option Url) (r : Reference) : Option Url :=
  match plain r.front, base with
  | [], some b => some (b.withReference r)
  | front, base =>
    match r.slashes, base with
    | 0, some b =>
      if beginsWithDrive front then some (ofFile r [] (addPath .file ['/'] r.front).path)
      else some (b.withPath r (addPath .file (dropLastSegment .file b.path) r.front).path)
    | 0, none => some (ofFile r [] (addPath .file ['/'] r.front).path)
    | 1, base => some (fileOnDrive base r)
    | _, _ => fileBehindSlashes? r (behindFirst (behindFirst r.front))

/-- Reads a reference without scheme, relative to an address in another scheme
than that of files. -/
def relative? (base : Url) (r : Reference) : Option Url :=
  let kind := base.kind
  match (plain r.front), r.slashes with
  | [], _ => some (base.withReference r)
  | _, 0 =>
    let path := dropLastSegment kind base.path
    some (base.withPath r (addPath kind (if path.isEmpty then ['/'] else path) r.front).path)
  | _, 1 => some (base.withPath r (addPath kind ['/'] (behindFirst r.front)).path)
  | '/' :: '/' :: _, _ => behindScheme? base.scheme r (behindFirst (behindFirst r.front))
  | _, _ => behindScheme? base.scheme r r.behindSlashes

/-- Reads what follows a free scheme. -/
def free? (scheme : List Char) (r : Reference) : Option Url :=
  match plain r.front with
  | '/' :: '/' :: _ => behindScheme? scheme r (behindFirst (behindFirst r.front))
  | '/' :: _ =>
    some ⟨scheme, none, (addPath .free ['/'] (behindFirst r.front)).path, r.query, r.fragment⟩
  | cs => some ⟨scheme, none, encode isControl cs, r.query, r.fragment⟩

/-- Reads what follows a scheme. It can be relative to an address of the same
scheme if the syntax of the scheme is fixed. -/
def absolute? (base : Option Url) (scheme cs : List Char) : Option Url :=
  let kind := schemeKind scheme
  let r := Reference.ofText kind cs
  match kind, base.filter (·.scheme == scheme) with
  | .file, base => file? base r
  | .server, some b =>
    if r.slashes < 2 then relative? b r else behindScheme? scheme r r.behindSlashes
  | .server, none => behindScheme? scheme r r.behindSlashes
  | .free, _ => free? scheme r

/-- The scheme of a text in lower case, and what follows its colon. -/
def scheme? (cs : List Char) : Option (List Char × List Char) :=
  match cutBefore ':' cs with
  | (front, some rest) =>
    let name := plain front
    if name.head?.any Char.isAlpha &&
        name.all (fun c => c.isAlphanum || ['+', '-', '.'].contains c) then
      some (name.map Char.toLower, rest)
    else none
  | _ => none

/-- A text without the blanks and controls at its ends. -/
def trimmed (s : String) : List Char :=
  let outer (c : Char) : Bool := c.toNat ≤ 0x20
  ((s.toList.dropWhile outer).reverse.dropWhile outer).reverse

/-- Reads an absolute address. -/
def parse? (s : String) : Option Url :=
  match scheme? (trimmed s) with
  | some (scheme, rest) => absolute? none scheme rest
  | none => none

/-- Reads a reference relative to an address. An address with an opaque path can
only be given another fragment. -/
def join? (base : Url) (reference : String) : Option Url :=
  let cs := trimmed reference
  match scheme? cs with
  | some (scheme, rest) => absolute? (some base) scheme rest
  | none =>
    let r := Reference.ofText base.kind cs
    if base.isOpaque then
      if (plain r.front).isEmpty && r.query.isNone && r.fragment.isSome then
        some (base.withReference r)
      else none
    else if base.kind == .file then file? (some base) r
    else relative? base r

/-- An identifier resolved against a base address. Where there is no base, where
the base is no absolute address, or where the reference cannot be read, the
identifier stays as it is. -/
def resolve (base : Option String) (systemId : String) : String :=
  match (base.bind parse?).bind (join? · systemId) with
  | some url => url.text
  | none => systemId

end Grove.Url

/-
Addresses: a scheme, an authority in most schemes, a path, and optionally a
query and a fragment. `Url.text` writes an address.

Schemes are of three kinds. Those of the first two have a fixed syntax, which
always has an authority and takes a backslash for a slash; the scheme of files
among them knows drive letters and has neither credentials nor a port.
-/
import Grove.Url.Encode

namespace Grove

/-- User name, password, host and port. A part that is missing is empty. -/
structure UrlAuthority where
  user : List Char := []
  password : List Char := []
  host : List Char := []
  port : Option Nat := none
  deriving DecidableEq

/-- An address. The path begins with a slash if it has a structure. -/
structure Url where
  scheme : List Char
  authority : Option UrlAuthority
  path : List Char
  query : Option (List Char)
  fragment : Option (List Char)
  deriving DecidableEq

/-- The kinds of schemes. -/
inductive SchemeKind where
  | file
  /-- With a fixed syntax, for servers. -/
  | server
  /-- With a syntax of its own. -/
  | free
  deriving DecidableEq

namespace SchemeKind

/-- Whether a character separates the segments of a path. -/
def separates (kind : SchemeKind) (c : Char) : Bool := c == '/' || (kind != .free && c == '\\')

/-- Whether the syntax is fixed. -/
def isFixed (kind : SchemeKind) : Bool := kind != .free

end SchemeKind

namespace Url

/-- The port that a scheme for servers implies. -/
def defaultPort (scheme : List Char) : Option Nat :=
  if scheme == "http".toList || scheme == "ws".toList then some 80
  else if scheme == "https".toList || scheme == "wss".toList then some 443
  else if scheme == "ftp".toList then some 21
  else none

def fileScheme : List Char := "file".toList

/-- The kind of a scheme. -/
def schemeKind (scheme : List Char) : SchemeKind :=
  if scheme == fileScheme then .file
  else if (defaultPort scheme).isSome then .server
  else .free

/-- The kind of the scheme of an address. -/
def kind (u : Url) : SchemeKind := schemeKind u.scheme

/-- Whether the path is a text without structure, so that no reference can be
relative to it. -/
def isOpaque (u : Url) : Bool := u.authority.isNone && u.path.head? != some '/'

/-- Credentials, host and port. -/
def authorityText (a : UrlAuthority) : List Char :=
  let credentials :=
    if a.user.isEmpty && a.password.isEmpty then []
    else a.user ++ (if a.password.isEmpty then [] else ':' :: a.password) ++ ['@']
  credentials ++ a.host ++ (match a.port with
    | none => []
    | some port => ':' :: (Nat.repr port).toList)

/-- The address as text. A path that could be taken for an authority has a dot in
front. -/
def text (u : Url) : String :=
  let authority := match u.authority, u.path with
    | some a, _ => '/' :: '/' :: authorityText a
    | none, '/' :: '/' :: _ => ['/', '.']
    | none, _ => []
  let query := match u.query with
    | none => []
    | some q => '?' :: q
  let fragment := match u.fragment with
    | none => []
    | some f => '#' :: f
  String.ofList (u.scheme ++ ':' :: authority ++ u.path ++ query ++ fragment)

end Url

end Grove

/-
Authorities: credentials before the last at sign, a host, and a port after a
colon. `authority?` reads one at the start of a text and gives what follows it.
-/
import Grove.Url.Host
import Grove.Url.Path

namespace Grove.Url

/-- Cuts a text before the first occurrence of a character. -/
def cutBefore (mark : Char) (cs : List Char) : List Char × Option (List Char) :=
  match cs.dropWhile (· != mark) with
  | [] => (cs, none)
  | _ :: rest => (cs.takeWhile (· != mark), some rest)

/-- Cuts a text at its last at sign. -/
def cutAtLastAt (cs : List Char) : Option (List Char) × List Char :=
  let (host, user) := cutBefore '@' cs.reverse
  (user.map List.reverse, host.reverse)

/-- Cuts host and port apart at the first colon that is not within brackets. -/
def cutPort (inside : Bool) : List Char → List Char × Option (List Char)
  | [] => ([], none)
  | c :: rest =>
    if c == ':' && !inside then ([], some rest)
    else
      let (host, port) := cutPort (c == '[' || (inside && c != ']')) rest
      (c :: host, port)

/-- The port after a host, which is left out when the scheme implies it. -/
def port? (scheme cs : List Char) : Option (Option Nat) := do
  let n ← ofBase? 10 cs
  if cs.isEmpty || defaultPort scheme == some n then some none
  else if n > 65535 then none
  else some (some n)

/-- User name and password. -/
def credentials (cs : List Char) : List Char × List Char :=
  let (user, password) := cutBefore ':' cs
  (encode escapedInUser user, encode escapedInUser (password.getD []))

/-- The text of a host that may be missing. -/
def hostOrNone? (kind : SchemeKind) (cs : List Char) : Option (List Char) :=
  if cs.isEmpty then (if kind == .free then some [] else none) else hostText? kind.isFixed cs

/-- Reads an authority at the start of a text and gives it with the rest, which is
a path; `more` tells whether anything follows the text. In a free scheme a
backslash ends the port. -/
def authority? (scheme cs : List Char) (more : Bool) : Option (UrlAuthority × List Char) := do
  let kind := schemeKind scheme
  let path := cs.dropWhile (!kind.separates ·)
  let (userPart, hostPart) := cutAtLastAt (cs.takeWhile (!kind.separates ·))
  let (user, password) := credentials (plain (userPart.getD []))
  let (host, port) := cutPort false (plain (hostPart.takeWhile (· != '\\')))
  let afterPort := hostPart.dropWhile (· != '\\')
  if userPart.any (plain · |>.isEmpty) && (plain hostPart).isEmpty && (more || !path.isEmpty) then
    none
  else if host.isEmpty && (port.isSome || !user.isEmpty || !password.isEmpty) then none
  else if !afterPort.isEmpty && port.isNone then none
  else
    let host ← hostOrNone? kind host
    let port ← port? scheme (port.getD [])
    some (⟨user, password, host, port⟩, afterPort ++ path)

end Grove.Url

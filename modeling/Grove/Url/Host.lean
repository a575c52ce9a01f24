/-
The host of an address. In the schemes with a fixed syntax it is a domain name,
which is put into its ASCII form, or one of the two kinds of numeric address; in
other schemes it is kept as it stands.
-/
import Grove.Url.Domain
import Grove.Url.Encode

namespace Grove.Url

/-- Characters that no host may hold. -/
def forbiddenInHost (c : Char) : Bool :=
  c.toNat == 0 ||
    ['\t', '\n', '\r', ' ', '#', '/', ':', '<', '>', '?', '@', '[', '\\', ']', '^', '|'].contains c

/-- A natural number in a base, if every character is a digit of it. -/
def ofBase? (base : Nat) (cs : List Char) : Option Nat :=
  cs.foldlM (fun n c =>
    (hexValue? c).bind fun d => if d < base then some (base * n + d) else none) 0

/-- One part of a dotted address: decimal, octal after `0`, or hexadecimal after
`0x`. -/
def dottedPart? : List Char → Option Nat
  | [] => none
  | '0' :: 'x' :: rest => ofBase? 16 rest
  | '0' :: 'X' :: rest => ofBase? 16 rest
  | '0' :: c :: rest => ofBase? 8 (c :: rest)
  | cs => ofBase? 10 cs

/-- The parts of a dotted address, without an empty part at the end. -/
def dottedParts (cs : List Char) : List (List Char) :=
  let parts := cs.splitOn '.'
  if parts.length > 1 && parts.getLast? == some [] then parts.dropLast else parts

/-- Whether the last part of a domain is a number, so that the whole must be a
dotted address. -/
def endsInNumber (cs : List Char) : Bool :=
  match (dottedParts cs).getLast? with
  | none | some [] => false
  | some last => last.all (fun c => '0' ≤ c && c ≤ '9') || (dottedPart? last).isSome

/-- A dotted address as a number: the parts but the last are single bytes, the
last fills the bytes that remain. -/
def dottedAddress? (cs : List Char) : Option Nat := do
  let parts ← (dottedParts cs).mapM dottedPart?
  let last ← parts.getLast?
  let leading := parts.dropLast
  if parts.length > 4 || leading.any (· > 255) || last ≥ Nat.pow 256 (5 - parts.length) then none
  else some (leading.foldl (fun n p => 256 * n + p) 0 * Nat.pow 256 (5 - parts.length) + last)

/-- A number as a dotted address. -/
def dottedText (n : Nat) : List Char :=
  let parts := [n / Nat.pow 256 3, n / Nat.pow 256 2 % 256, n / 256 % 256, n % 256]
  (".".intercalate (parts.map Nat.repr)).toList

/-- A dotted address at the end of a colon address: four decimal bytes without
leading zeros. -/
def strictDotted? (cs : List Char) : Option (List Nat) := do
  let bytes ← (cs.splitOn '.').mapM fun part =>
    if part.isEmpty || part.length > 3 || (part.length > 1 && part.head? == some '0') then none
    else (ofBase? 10 part).filter (· < 256)
  match bytes with
  | [a, b, c, d] => some [256 * a + b, 256 * c + d]
  | _ => none

/-- One piece of a colon address: up to four hexadecimal digits. -/
def colonPiece? (cs : List Char) : Option Nat :=
  if cs.isEmpty || cs.length > 4 then none else ofBase? 16 cs

/-- The pieces of one side of a colon address. Only the end of an address may be
a dotted one. -/
def colonPieces? (atEnd : Bool) (cs : List Char) : Option (List Nat) :=
  let groups := cs.splitOn ':'
  match groups.getLast? with
  | none | some [] => if cs.isEmpty then some [] else none
  | some last => do
    let leading ← groups.dropLast.mapM colonPiece?
    let tail ←
      if atEnd && last.contains '.' then strictDotted? last else (colonPiece? last).map ([·])
    some (leading ++ tail)

/-- Cuts a text at the first pair of colons. -/
def cutAtGap : List Char → Option (List Char × List Char)
  | ':' :: ':' :: rest => some ([], rest)
  | c :: rest => (cutAtGap rest).map fun (before, after) => (c :: before, after)
  | [] => none

/-- The eight pieces of a colon address, where a pair of colons stands for zero
pieces. -/
def colonAddress? (cs : List Char) : Option (List Nat) :=
  match cutAtGap cs with
  | none => (colonPieces? true cs).filter (·.length == 8)
  | some (before, after) => do
    let front ← colonPieces? false before
    let back ← colonPieces? true after
    if front.length + back.length > 7 then none
    else some (front ++ List.replicate (8 - front.length - back.length) 0 ++ back)

/-- The length of the run of zeros at the start of a list. -/
def zeroRun (ps : List Nat) : Nat := (ps.takeWhile (· == 0)).length

/-- The start of the first longest run of zeros, if it is longer than one. -/
def longestZeroRun (ps : List Nat) : Option Nat :=
  let runs := (List.range ps.length).map fun i => (i, zeroRun (ps.drop i))
  let best := runs.foldl (fun b r => if r.2 > b.2 then r else b) (0, 0)
  if best.2 > 1 then some best.1 else none

/-- A colon address in brackets, with the first longest run of zeros left out. -/
def colonText (ps : List Nat) : List Char :=
  let part (qs : List Nat) : String :=
    ":".intercalate (qs.map fun p => String.ofList (Nat.toDigits 16 p))
  let body := match longestZeroRun ps with
    | none => part ps
    | some i => part (ps.take i) ++ "::" ++ part (ps.drop (i + zeroRun (ps.drop i)))
  ("[" ++ body ++ "]").toList

/-- The text of a host that is a domain name or an address in numbers. -/
def domainHost? (cs : List Char) : Option (List Char) := do
  let decoded ← String.fromUTF8? ⟨(decodeBytes cs).toArray⟩
  let domain ← asciiDomain? decoded.toList
  if domain.isEmpty then none
  else if endsInNumber domain then (dottedAddress? domain).map dottedText
  else some domain

/-- The text of a host, given whether the scheme has hosts of a fixed form. -/
def hostText? (fixed : Bool) (cs : List Char) : Option (List Char) :=
  match cs with
  | '[' :: rest =>
    if rest.getLast? == some ']' then (colonAddress? rest.dropLast).map colonText else none
  | _ =>
    if fixed then domainHost? cs
    else if cs.any forbiddenInHost then none
    else some (encode isControl cs)

end Grove.Url

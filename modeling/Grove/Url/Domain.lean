/-
Domain names. `asciiDomain?` gives the ASCII form of a name: the text is folded
and composed, and each label between its dots that has other characters, or is
written as if it had, is checked and put into ASCII. The rules are those of
internationalised domain names: what a label may begin with, where a joiner may
stand, and how text from left to right and from right to left may be mixed.
-/
import Grove.Unicode.Composition
import Grove.Unicode.Direction
import Grove.Unicode.DomainFolding
import Grove.Unicode.Joining
import Grove.Unicode.Mark
import Grove.Url.Label

namespace Grove.Url

open Unicode

/-- Characters that no domain name may hold. -/
def forbiddenInDomain (c : Char) : Bool :=
  c.toNat ≤ 0x20 || c.toNat == 0x7F ||
    ['%', '#', '/', ':', '<', '>', '?', '@', '[', '\\', ']', '^', '|'].contains c

/-- The character that keeps two letters from joining. -/
def nonJoiner : Char := Char.ofNat 0x200C

/-- The character that makes two letters join. -/
def joiner : Char := Char.ofNat 0x200D

/-- Whether a joiner or non-joiner may stand where it does: after a sign that takes
a vowel away, and a non-joiner also between letters that would join. The text
before it is given last character first. -/
def joinerFits (before : List Char) (c : Char) (after : List Char) : Bool :=
  before.head?.any (combiningClass · == viramaClass) ||
    (c == nonJoiner &&
      ((before.dropWhile isJoinedAcross).head?.any joinsAfter &&
        (after.dropWhile isJoinedAcross).head?.any joinsBefore))

/-- Whether all joiners and non-joiners of a text fit. -/
def joinersFit (before : List Char) : List Char → Bool
  | [] => true
  | c :: after =>
    (!(c == nonJoiner || c == joiner) || joinerFits before c after) &&
      joinersFit (c :: before) after

/-- A label of a domain name: its ASCII form, and the characters it stands for. -/
structure Label where
  ascii : List Char
  chars : List Char
  deriving DecidableEq

namespace Label

/-- What the ASCII form of a label with other characters begins with. -/
def marker : List Char := ['x', 'n', '-', '-']

/-- The greatest number of characters of a label with other characters than ASCII. -/
def maxLength : Nat := 1000

/-- The greatest length of what follows the marker. -/
def maxCodeLength : Nat := 2000

/-- Whether folded and composed text beyond ASCII may be a label. -/
def isProper (chars : List Char) : Bool :=
  !(chars.head?.any isMark) && joinersFit [] chars && chars.length ≤ maxLength &&
    !marker.isPrefixOf chars

/-- Reads a label that begins with the marker. It must be what its characters are
written as. -/
def ofCode? (label : List Char) : Option Label :=
  let code := label.drop marker.length
  if code.isEmpty || code.getLast? == some '-' || code.length > maxCodeLength ||
      !label.all isAscii then none
  else
    match decodeLabel? code with
    | some chars =>
      if chars.all (fun c => folded? c == some [c]) && compose chars == chars && isProper chars then
        some ⟨label, chars⟩
      else none
    | none => none

/-- Reads a label of a folded and composed name. -/
def ofChars? (label : List Char) : Option Label :=
  if marker.isPrefixOf label then ofCode? label
  else if label.all isAscii then some ⟨label, label⟩
  else if isProper label then some ⟨marker ++ encodeLabel label, label⟩
  else none

/-- The directions of the characters of a label. -/
def directions (l : Label) : List Direction := l.chars.map direction

/-- Whether a label has text that is written from right to left. No character
below the first such letter is. -/
def hasRightToLeft (l : Label) : Bool :=
  l.chars.any fun c => c.toNat ≥ 0x590 && [.rightToLeft, .arabicDigit].contains (direction c)

/-- Whether the directions of a label may stand together in a name that has text
from right to left: a label runs in one direction, which its first character
shows, ends in that direction or in digits, and does not mix the two kinds of
digits if it runs from right to left. -/
def isOrdered (directions : List Direction) : Bool :=
  match directions with
  | [] => true
  | first :: rest =>
    let rest := (rest.reverse.dropWhile (· == .mark)).reverse
    let last := rest.getLast?
    match first with
    | .leftToRight =>
      rest.all (fun d => d != .rightToLeft && d != .arabicDigit) &&
        last.all fun d => d == .leftToRight || d == .digit
    | .rightToLeft =>
      rest.all (· != .leftToRight) &&
        last.all (fun d => d == .rightToLeft || d == .digit || d == .arabicDigit) &&
        !(rest.contains .digit && rest.contains .arabicDigit)
    | _ => false

end Label

/-- A name folded and composed. -/
def foldedDomain? (cs : List Char) : Option (List Char) :=
  (cs.mapM folded?).map fun texts => compose texts.flatten

/-- The ASCII form of a domain name. -/
def asciiDomain? (cs : List Char) : Option (List Char) := do
  let name ← foldedDomain? cs
  if name.any forbiddenInDomain then none
  else
    let labels ← (name.splitOn '.').mapM Label.ofChars?
    if labels.any Label.hasRightToLeft && !labels.all (Label.isOrdered ·.directions) then none
    else some (['.'].intercalate (labels.map Label.ascii))

end Grove.Url

/-
Tables of code points, kept as text. A table is a list of rows, a row is a list
of entries with blanks between them, and an entry is a code point or a range of
them, `1D400-1D419`, both ends included. An entry may carry further code points,
which follow a colon and have dots between them: `A8:20.308`. All numbers are
hexadecimal. `Span.table` reads a table, `Span.find?` looks a code point up.
-/

namespace Grove.Unicode

/-- A range of code points with what it carries. -/
structure Span where
  first : Nat
  last : Nat
  values : List Nat := []
  deriving DecidableEq

namespace Span

/-- The value of a hexadecimal digit in upper case. -/
def digit (c : Char) : Nat :=
  if c.isDigit then c.toNat - '0'.toNat else c.toNat - 'A'.toNat + 10

/-- The number that hexadecimal digits stand for. -/
def number (cs : List Char) : Nat := cs.foldl (fun n c => 16 * n + digit c) 0

/-- A list that is cut before the first occurrence of a character, which is left
out. -/
def cut (mark : Char) (cs : List Char) : List Char × List Char :=
  (cs.takeWhile (· != mark), (cs.dropWhile (· != mark)).drop 1)

/-- Reads one entry. -/
def ofText (cs : List Char) : Span :=
  let (range, values) := cut ':' cs
  let (first, last) := cut '-' range
  { first := number first
    last := if last.isEmpty then number first else number last
    values := if values.isEmpty then [] else (values.splitOn '.').map number }

/-- Reads a table. -/
def table (rows : List String) : List Span :=
  rows.flatMap fun row => (row.toList.splitOn ' ').map ofText

/-- Whether a code point lies in a range. -/
def contains (s : Span) (n : Nat) : Bool := s.first ≤ n && n ≤ s.last

/-- The entry of a table for a code point. -/
def find? (spans : List Span) (n : Nat) : Option Span := spans.find? (·.contains n)

/-- Whether a table has an entry for a code point. -/
def covers (spans : List Span) (n : Nat) : Bool := (find? spans n).isSome

end Span

end Grove.Unicode

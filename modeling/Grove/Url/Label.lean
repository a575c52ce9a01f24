/-
Labels of a domain name in ASCII. A label with other characters is written as
its ASCII characters and then, after a hyphen, the places and numbers of the
others in generalised digits: `encodeLabel` writes this form, `decodeLabel?`
reads it. Both go through the characters in ascending order; between two of them
stands the number of places that were passed, the delta, in digits of a variable
size that adapts to the deltas so far.
-/

namespace Grove.Url

/-- The digit of a number below 36. -/
def labelDigit (n : Nat) : Char :=
  if n < 26 then Char.ofNat ('a'.toNat + n) else Char.ofNat ('0'.toNat + (n - 26))

/-- The number of a digit. -/
def labelDigitValue? (c : Char) : Option Nat :=
  if c.isLower then some (c.toNat - 'a'.toNat)
  else if c.isUpper then some (c.toNat - 'A'.toNat)
  else if c.isDigit then some (c.toNat - '0'.toNat + 26)
  else none

/-- The divisions that bring a delta below the range of one digit, and what is
left of it; each takes off a factor of 35. -/
def reduceDelta : Nat → Nat → Nat → Nat × Nat
  | 0, k, delta => (k, delta)
  | steps + 1, k, delta =>
    if delta > 455 then reduceDelta steps (k + 36) (delta / 35) else (k, delta)

/-- The bias for the next delta. -/
def adaptBias (delta points : Nat) (first : Bool) : Nat :=
  let delta := if first then delta / 700 else delta / 2
  let (k, delta) := reduceDelta 64 0 (delta + delta / points)
  k + 36 * delta / (delta + 38)

/-- The bound below which a digit is the last of its delta. -/
def lastDigitBound (k bias : Nat) : Nat :=
  if k ≤ bias then 1 else if k ≥ bias + 26 then 26 else k - bias

/-- The bias before the first delta. -/
def firstBias : Nat := 72

/-- The first number beyond ASCII. -/
def firstBeyondAscii : Nat := 0x80

def isAscii (c : Char) : Bool := c.toNat < firstBeyondAscii

/-- A delta in digits, in at most the given number of them. -/
def deltaDigits (bias : Nat) : Nat → Nat → Nat → List Char
  | 0, _, _ => []
  | steps + 1, k, q =>
    let t := lastDigitBound k bias
    if q < t then [labelDigit q]
    else labelDigit (t + (q - t) % (36 - t)) :: deltaDigits bias steps (k + 36) ((q - t) / (36 - t))

/-- The state in which the characters of a label beyond ASCII are written. -/
structure LabelWriter where
  delta : Nat
  bias : Nat
  handled : Nat
  output : List Char

/-- Writes all occurrences of one character of a label. -/
def LabelWriter.write (label : List Char) (basic : Nat) (s : LabelWriter) (point : Nat) :
    LabelWriter :=
  label.foldl (fun s c =>
    if c.toNat < point then { s with delta := s.delta + 1 }
    else if c.toNat == point then
      { delta := 0
        bias := adaptBias s.delta (s.handled + 1) (s.handled == basic)
        handled := s.handled + 1
        output := s.output ++ deltaDigits s.bias 64 36 s.delta }
    else s) s

/-- The ASCII characters of a label, then the others by place and number. -/
def encodeLabel (label : List Char) : List Char :=
  let basic := label.filter isAscii
  let points := ((label.filter (!isAscii ·)).map (·.toNat)).mergeSort.eraseReps
  let start : LabelWriter :=
    ⟨0, firstBias, basic.length, if basic.isEmpty then [] else basic ++ ['-']⟩
  let (s, _) := points.foldl (fun (s, next) point =>
    let s := { s with delta := s.delta + (point - next) * (s.handled + 1) }
    let s := s.write label basic.length point
    ({ s with delta := s.delta + 1 }, point + 1)) (start, firstBeyondAscii)
  s.output

/-- The bound on the numbers that occur while a label is read. -/
def numberBound : Nat := 0x100000000

/-- The state in which the characters of a label beyond ASCII are read. -/
structure LabelReader where
  chars : List Char
  /-- The number of the last character. -/
  point : Nat := firstBeyondAscii
  /-- The place of the next character, to which the delta in progress is added. -/
  place : Nat := 0
  bias : Nat := firstBias
  /-- The place before the delta in progress; it is zero for the first one only. -/
  start : Nat := 0
  weight : Nat := 1
  k : Nat := 36

namespace LabelReader

/-- Ends a delta: the places that go beyond the end of the label are steps to the
next numbers. -/
def insert? (s : LabelReader) : Option LabelReader :=
  let count := s.chars.length + 1
  let point := s.point + s.place / count
  let place := s.place % count
  if point.isValidChar then
    some
      { chars := s.chars.insertIdx place (Char.ofNat point)
        point
        place := place + 1
        bias := adaptBias (s.place - s.start) count (s.start == 0)
        start := place + 1 }
  else none

/-- Reads a digit. -/
def read? (s : LabelReader) (c : Char) : Option LabelReader := do
  let digit ← labelDigitValue? c
  let s := { s with place := s.place + digit * s.weight }
  let t := lastDigitBound s.k s.bias
  if s.place ≥ numberBound then none
  else if digit < t then s.insert?
  else if s.weight * (36 - t) ≥ numberBound then none
  else some { s with weight := s.weight * (36 - t), k := s.k + 36 }

/-- Whether no delta is in progress. -/
def isDone (s : LabelReader) : Bool := s.k == 36

end LabelReader

/-- Reads a label: the ASCII characters stand before the last hyphen. A hyphen in
front of everything is none that ends them. -/
def decodeLabel? (code : List Char) : Option (List Char) := do
  let tail := code.reverse.takeWhile (· != '-')
  let head := code.take (code.length - tail.length)
  let (basic, digits) := if head.length > 1 then (head.dropLast, tail.reverse) else ([], code)
  let s ← digits.foldlM LabelReader.read? { chars := basic }
  if s.isDone then some s.chars else none

end Grove.Url

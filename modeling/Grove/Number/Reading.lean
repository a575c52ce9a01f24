/-
Reading numbers. The grammars of integers, decimals and doubles are Boolean
functions on characters; `ofDecimalText` is the double nearest to a decimal
with an optional exponent, and the readers below differ in the grammar they
accept.
-/
import Grove.Text.Blank
import Grove.Number.Rounding

namespace Grove.Number

/-- The digits 0 to 9. -/
def isDigit (c : Char) : Bool := '0' ≤ c && c ≤ '9'

/-- A text without one leading plus or minus sign. -/
def unsigned : List Char → List Char
  | '+' :: rest => rest
  | '-' :: rest => rest
  | cs => cs

/-- One or more digits. -/
def isDigits (cs : List Char) : Bool := !cs.isEmpty && cs.all isDigit

/-- An optional sign and one or more digits. -/
def isInteger (cs : List Char) : Bool := isDigits (unsigned cs)

/-- A text up to the first occurrence of a character, and what follows it. -/
def cutAt (p : Char → Bool) (cs : List Char) : List Char × Option (List Char) :=
  match cs.dropWhile (!p ·) with
  | [] => (cs, none)
  | _ :: rest => (cs.takeWhile (!p ·), some rest)

/-- An optional sign and digits with at most one point among, before or after
them. -/
def isDecimal (cs : List Char) : Bool :=
  let (whole, fraction) := cutAt (· == '.') (unsigned cs)
  let fraction := fraction.getD []
  (!whole.isEmpty || !fraction.isEmpty) && whole.all isDigit && fraction.all isDigit

/-- A decimal and an optional exponent, which is an integer after `e` or `E`. -/
def isScientific (cs : List Char) : Bool :=
  let (mantissa, exponent) := cutAt (fun c => c == 'e' || c == 'E') cs
  isDecimal mantissa && exponent.all isInteger

/-- The natural number that digits stand for. -/
def ofDigits (cs : List Char) : Nat :=
  cs.foldl (fun n c => 10 * n + (c.toNat - '0'.toNat)) 0

/-- The double nearest to `digits * 10 ^ exponent`. An exponent so large or so
small that the result is infinite or zero whatever the digits are is not raised
to its power. -/
def nearest (digits : Nat) (exponent : Int) : Float :=
  if digits == 0 then 0.0
  else
    let size := (Nat.toDigits 10 digits).length
    if exponent + size > 400 then 1.0 / 0.0
    else if exponent + size < -400 then 0.0
    else ofQuotient (digits * Nat.pow 10 exponent.toNat) (Nat.pow 10 (-exponent).toNat)

/-- The double nearest to a text of the grammar `isScientific`. -/
def ofDecimalText (cs : List Char) : Float :=
  let (mantissa, exponent) := cutAt (fun c => c == 'e' || c == 'E') cs
  let (whole, fraction) := cutAt (· == '.') (unsigned mantissa)
  let fraction := fraction.getD []
  let shift : Int := match exponent with
    | none => 0
    | some e => if e.head? == some '-' then -(ofDigits (unsigned e) : Int) else ofDigits (unsigned e)
  let magnitude := nearest (ofDigits (whole ++ fraction)) (shift - fraction.length)
  if cs.head? == some '-' then -magnitude else magnitude

/-- The number value of a string: of a decimal without plus sign between blanks,
and NaN for any other string. -/
def ofText (s : String) : Float :=
  let cs := Text.trimChars s.toList
  let body := match cs with
    | '-' :: rest => rest
    | _ => cs
  let dots := body.filter (· == '.')
  if !body.isEmpty && body.all (fun c => isDigit c || c == '.') && dots.length ≤ 1 &&
      body != ['.'] then ofDecimalText cs
  else 0.0 / 0.0

/-- The double a lexical form stands for: one of the names of infinity and NaN,
or a decimal with an optional exponent. -/
def ofLexical? (cs : List Char) : Option Float :=
  if cs == ['I', 'N', 'F'] || cs == ['+', 'I', 'N', 'F'] then some (1.0 / 0.0)
  else if cs == ['-', 'I', 'N', 'F'] then some (-1.0 / 0.0)
  else if cs == ['N', 'a', 'N'] then some (0.0 / 0.0)
  else if isScientific cs then some (ofDecimalText cs)
  else none

end Grove.Number

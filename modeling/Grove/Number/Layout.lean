/-
Numbers as text. A `Layout` says how the digits of a double are written; the
three layouts are the string form of a number value, the form of a double in an
expression, and the form in a summary.
-/
import Grove.Number.Shortest

namespace Grove.Number

/-- How a double is written. -/
structure Layout where
  /-- Whether a number below `10 ^ k` and not below `10 ^ (k - 1)` is written
  without an exponent. -/
  positional : Int → Bool
  /-- What follows the digits of a number without a fractional part. -/
  wholeMark : String
  /-- The text of positive infinity. -/
  infinity : String
  /-- Whether negative zero has a sign. -/
  signedZero : Bool

/-- The digits of a decimal without zeros at the end, and their exponent. -/
def stripZeros (digits : List Char) (exponent : Int) : List Char × Int :=
  let kept := (digits.reverse.dropWhile (· == '0')).reverse
  (kept, exponent + (digits.length - kept.length : Nat))

/-- Digits and exponent without an exponent part. -/
def positionalText (wholeMark : String) (digits : List Char) (exponent : Int) : String :=
  let point := (digits.length : Int) + exponent
  if 0 ≤ exponent then
    String.ofList (digits ++ List.replicate exponent.toNat '0') ++ wholeMark
  else if 0 < point then
    String.ofList (digits.take point.toNat ++ '.' :: digits.drop point.toNat)
  else
    "0." ++ String.ofList (List.replicate (-point).toNat '0' ++ digits)

/-- Digits and exponent with one digit before the point and an exponent part. -/
def scientificText (digits : List Char) (exponent : Int) : String :=
  let point := (digits.length : Int) + exponent
  let mantissa := match digits with
    | [] => ""
    | [d] => d.toString
    | d :: rest => String.ofList (d :: '.' :: rest)
  mantissa ++ "e" ++ Int.repr (point - 1)

/-- A double in a layout. -/
def Layout.write (layout : Layout) (x : Float) : String :=
  if x.isNaN then "NaN"
  else
    let sign := if isNegative x then "-" else ""
    if x.isInf then sign ++ layout.infinity
    else if x == 0.0 then (if layout.signedZero then sign else "") ++ "0" ++ layout.wholeMark
    else
      let shortest := (decode x).shortest
      let (digits, exponent) := stripZeros (Nat.toDigits 10 shortest.digits) shortest.exponent
      let point := (digits.length : Int) + exponent
      if layout.positional point then sign ++ positionalText layout.wholeMark digits exponent
      else sign ++ scientificText digits exponent

/-- Number values are written without exponents, and zero without a sign. -/
def valueLayout : Layout where
  positional _ := true
  wholeMark := ""
  infinity := "Infinity"
  signedZero := false

/-- Doubles in an expression are written without exponents and always have a
fractional part. -/
def literalLayout : Layout where
  positional _ := true
  wholeMark := ".0"
  infinity := "Infinity"
  signedZero := true

/-- In a summary, numbers below `10 ^ (-4)` and from `10 ^ 16` on have an
exponent. -/
def summaryLayout : Layout where
  positional point := -4 < point && point ≤ 16
  wholeMark := ".0"
  infinity := "inf"
  signedZero := true

/-- The string form of a number value. Integers below `10 ^ 18` are written with
all their digits, other numbers with the fewest that read back. -/
def text (x : Float) : String :=
  if isWhole x && x.abs < 1e18 then Int.repr (toInt x) else valueLayout.write x

end Grove.Number

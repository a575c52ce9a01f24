/-
Doubles as exact numbers. A finite double is a significand times a power of
two; `decode` reads that off its bits and `pack` puts it back. On top of them:
the integral part, the remainder of a division that truncates, and the value as
an integer, all computed exactly on naturals.
-/

namespace Grove.Number

/-- The magnitude `significand * 2 ^ exponent` of a finite double. -/
structure Magnitude where
  significand : Nat
  exponent : Int
  deriving DecidableEq, Repr

/-- The eleven bits of the biased exponent. -/
def exponentField (bits : UInt64) : Nat := bits.toNat / Nat.pow 2 52 % Nat.pow 2 11

/-- The fifty-two bits of the fraction. -/
def fractionField (bits : UInt64) : Nat := bits.toNat % Nat.pow 2 52

/-- Whether the sign bit is set. -/
def signField (bits : UInt64) : Bool := bits.toNat / Nat.pow 2 63 == 1

/-- The magnitude of a double that is finite. -/
def decode (x : Float) : Magnitude :=
  let bits := x.toBits
  if exponentField bits == 0 then ⟨fractionField bits, -1074⟩
  else ⟨Nat.pow 2 52 + fractionField bits, (exponentField bits : Int) - 1075⟩

/-- Whether the sign bit of a double is set; also true of negative zero. -/
def isNegative (x : Float) : Bool := signField x.toBits

/-- The double of the given sign and magnitude, for a magnitude that a double
holds exactly: a significand below `2 ^ 53` over an exponent of at least -1074. -/
def pack (negative : Bool) (m : Magnitude) : Float :=
  let shift := min (52 - m.significand.log2 : Nat) (m.exponent + 1074).toNat
  let scaled := m.significand * Nat.pow 2 shift
  let biased := if scaled < Nat.pow 2 52 then 0 else (m.exponent - shift + 1075).toNat
  let sign := if negative then Nat.pow 2 63 else 0
  Float.ofBits (UInt64.ofNat (sign + biased * Nat.pow 2 52 + scaled % Nat.pow 2 52))

/-- How many low bits of a fraction stand for less than one, for the given
biased exponent. -/
def fractionalBits (biased : Nat) : Nat := if biased < 1023 then 52 else 1075 - biased

/-- The bits of a double with every bit that stands for less than one cleared. -/
def truncateBits (bits : UInt64) : UInt64 :=
  let biased := exponentField bits
  if biased < 1023 then UInt64.ofNat (bits.toNat / Nat.pow 2 63 * Nat.pow 2 63)
  else
    let unit := Nat.pow 2 (fractionalBits biased)
    UInt64.ofNat (bits.toNat / unit * unit)

/-- The integral part of a double, with its sign; infinities and NaN are kept. -/
def truncate (x : Float) : Float :=
  if x.isFinite then Float.ofBits (truncateBits x.toBits) else x

/-- Whether a double is finite and without a fractional part. -/
def isWhole (x : Float) : Bool := x.isFinite && x.toBits == truncateBits x.toBits

/-- The integer a finite double truncates to. -/
def toInt (x : Float) : Int :=
  let m := decode x
  let n := if m.exponent < 0 then m.significand / Nat.pow 2 (-m.exponent).toNat
    else m.significand * Nat.pow 2 m.exponent.toNat
  if isNegative x then -(n : Int) else n

/-- The remainder of a division that truncates toward zero. It is exact and has
the sign of the dividend; there is none for an infinite dividend, a zero
divisor or NaN. -/
def remainder (a b : Float) : Float :=
  if a.isNaN || b.isNaN || a.isInf || b == 0.0 then 0.0 / 0.0
  else if b.isInf || a == 0.0 then a
  else
    let m := decode a
    let n := decode b
    let exponent := min m.exponent n.exponent
    let significand :=
      (m.significand * Nat.pow 2 (m.exponent - exponent).toNat) %
        (n.significand * Nat.pow 2 (n.exponent - exponent).toNat)
    pack (isNegative a) ⟨significand, exponent⟩

/-- One for true and zero for false. -/
def ofBool (b : Bool) : Float := if b then 1.0 else 0.0

end Grove.Number

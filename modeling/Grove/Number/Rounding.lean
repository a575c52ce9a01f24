/-
The double nearest to a quotient of naturals; of two equally near, the one with
the even significand. A quotient is cut at a binary place that leaves at least
fifty-three bits, except below the normal doubles, where the last place is that
of the least double; what is cut off decides the rounding.

The significand with its hidden bit is added to the exponent field, not put
beside it, so a significand that rounds up to the next power of two carries
into the exponent, and past the largest double into infinity.
-/

namespace Grove.Number

/-- The quotient to the nearest natural; a half goes to the even neighbour. -/
def roundQuotient (num den : Nat) : Nat :=
  let whole := num / den
  let twice := 2 * (num % den)
  if twice < den || (twice == den && whole % 2 == 0) then whole else whole + 1

/-- `num / den * 2 ^ (-place)` as a quotient. -/
def scaleQuotient (num den : Nat) (place : Int) : Nat × Nat :=
  (num * Nat.pow 2 (-place).toNat, den * Nat.pow 2 place.toNat)

/-- The binary place at which a quotient above zero is cut: the highest that leaves
fifty-three bits, but none below that of the least double. -/
def lastPlace (num den : Nat) : Int :=
  let low := max ((num.log2 : Int) - den.log2 - 53) (-1074)
  let (scaled, unit) := scaleQuotient num den low
  if scaled / unit < Nat.pow 2 53 then low else low + 1

/-- The bits of positive infinity. -/
def infinityBits : Nat := 2047 * Nat.pow 2 52

/-- The double nearest to `num / den`, where `den` is not zero. -/
def ofQuotient (num den : Nat) : Float :=
  if num == 0 then 0.0
  else
    let place := lastPlace num den
    let (scaled, unit) := scaleQuotient num den place
    let bits := (place + 1074).toNat * Nat.pow 2 52 + roundQuotient scaled unit
    Float.ofBits (UInt64.ofNat (min bits infinityBits))

end Grove.Number

/-
The shortest decimal of a double: among the decimals that read back to it the
ones with the fewest digits, of those the nearest, and of two equally near the
larger. A decimal reads back to a double when it lies between the midpoints to
the double's two neighbours, the midpoints included when the significand is
even. All comparisons are exact.
-/
import Grove.Number.Binary

namespace Grove.Number

/-- The decimal `digits * 10 ^ exponent`. -/
structure Decimal where
  digits : Nat
  exponent : Int
  deriving DecidableEq, Repr

/-- Whether the neighbour below is half as far away as the one above. -/
def Magnitude.narrowBelow (m : Magnitude) : Bool :=
  m.significand == Nat.pow 2 52 && m.exponent > -1074

/-- The order of `a * 10 ^ i` and `b * 2 ^ j`. -/
def compareScaled (a : Nat) (i : Int) (b : Nat) (j : Int) : Ordering :=
  compare (a * Nat.pow 10 i.toNat * Nat.pow 2 (-j).toNat)
    (b * Nat.pow 2 j.toNat * Nat.pow 10 (-i).toNat)

/-- Whether a decimal rounds to the magnitude: it lies between the midpoints to
the neighbours, or on one of them when the significand is even. -/
def Magnitude.readsBack (m : Magnitude) (d : Decimal) : Bool :=
  let low := if m.narrowBelow then 4 * m.significand - 1 else 4 * m.significand - 2
  let high := 4 * m.significand + 2
  let even := m.significand % 2 == 0
  let toLow := compareScaled d.digits d.exponent low (m.exponent - 2)
  let toHigh := compareScaled d.digits d.exponent high (m.exponent - 2)
  (toLow == .gt || (even && toLow == .eq)) && (toHigh == .lt || (even && toHigh == .eq))

/-- Whether the magnitude is below `10 ^ k`. -/
def Magnitude.belowPower (m : Magnitude) (k : Int) : Bool :=
  compareScaled 1 k m.significand m.exponent == .gt

/-- The least power of ten above the magnitude, searched upward from `k` in at
most `steps` steps. -/
def Magnitude.scaleFrom (m : Magnitude) (k : Int) : Nat → Int
  | 0 => k
  | steps + 1 => if m.belowPower k then k else m.scaleFrom (k + 1) steps

/-- The number `k` with `10 ^ (k - 1) ≤ m < 10 ^ k`, for a magnitude above zero.
The binary logarithm, scaled by a fraction just below that of two, is a lower
bound that is off by less than three. -/
def Magnitude.scale (m : Magnitude) : Int :=
  let log := (m.significand.log2 : Int) + m.exponent
  m.scaleFrom (Int.fdiv (log * 30102) 100000 - 1) 8

/-- The decimal with unit `10 ^ e` that reads back to the magnitude, if there is
one: of the two around it the nearer, and the larger when both are equally
near. -/
def Magnitude.onGrid (m : Magnitude) (e : Int) : Option Decimal :=
  let num := m.significand * Nat.pow 2 m.exponent.toNat * Nat.pow 10 (-e).toNat
  let den := Nat.pow 2 (-m.exponent).toNat * Nat.pow 10 e.toNat
  let below : Decimal := ⟨num / den, e⟩
  let above : Decimal := ⟨num / den + 1, e⟩
  match m.readsBack below, m.readsBack above with
  | true, true => if 2 * num < (2 * below.digits + 1) * den then some below else some above
  | true, false => some below
  | false, true => some above
  | false, false => none

/-- The first decimal that reads back on the grids with unit `10 ^ e`,
`10 ^ (e - 1)` and so on. -/
def Magnitude.firstOnGrids (m : Magnitude) (e : Int) : Nat → Option Decimal
  | 0 => none
  | grids + 1 =>
    match m.onGrid e with
    | some d => some d
    | none => m.firstOnGrids (e - 1) grids

/-- The exact decimal of a magnitude. -/
def Magnitude.exact (m : Magnitude) : Decimal :=
  if m.exponent < 0 then ⟨m.significand * Nat.pow 5 (-m.exponent).toNat, m.exponent⟩
  else ⟨m.significand * Nat.pow 2 m.exponent.toNat, 0⟩

/-- The shortest decimal that reads back to a magnitude above zero. Seventeen
digits are always enough. -/
def Magnitude.shortest (m : Magnitude) : Decimal :=
  (m.firstOnGrids (m.scale - 1) 17).getD m.exact

end Grove.Number

/-
Counts as numbers. A count of one or more becomes a number that is not zero, however
large the count is: rounding keeps a value of at least one normal, so its packed
exponent is not that of zero (`Number.ofNat_eq_zero_iff`). What is known of the packed form
comes with `Grove.Proofs.Number.Finite`.
-/
import Grove.Proofs.Number.Finite

namespace Grove.Number

open Float.Model Float.Model.UnpackedFloat

theorem mantissa_shiftRight (em : ExtendedMantissa) (k : Nat) :
    (em >>> k).mantissa = em.mantissa / 2 ^ k := by
  change (k.repeat ExtendedMantissa.shiftRightOne em).mantissa = _
  induction k with
  | zero => simp [Nat.repeat]
  | succ k ih =>
    rw [Nat.repeat, ExtendedMantissa.shiftRightOne, ih, Nat.div_div_eq_div_mul, ← Nat.pow_succ]

theorem roundedMantissa_bounds (em : ExtendedMantissa) :
    em.mantissa ≤ em.roundedMantissa ∧ em.roundedMantissa ≤ em.mantissa + 1 := by
  unfold ExtendedMantissa.roundedMantissa
  cases em.accuracy with
  | exact => exact ⟨Nat.le_refl _, Nat.le_succ _⟩
  | inexact half =>
    have heven := Nat.mod_lt em.mantissa Nat.two_pos
    cases half <;> simp only [Accuracy.roundToNearestEven] <;> omega

theorem mantissa_ofMantissaAndAccuracy (m : Nat) (a : Accuracy) :
    (ExtendedMantissa.ofMantissaAndAccuracy m a).mantissa = m := by
  unfold ExtendedMantissa.ofMantissaAndAccuracy
  split <;> rfl

/-- A mantissa of at least 53 bits, with the exponent of its lowest bit, for a value that
is not below one. -/
structure AtLeastOne (m : Nat) (e : Int) : Prop where
  wide : 2 ^ 52 ≤ m
  value : 0 ≤ m.log2 + e

namespace AtLeastOne

variable {m : Nat} {e : Int}

theorem le_log2 (h : AtLeastOne m e) : 52 ≤ m.log2 := by
  have hwide := h.wide
  exact (Nat.le_log2 (by omega)).2 hwide

theorem targetExponent_eq (h : AtLeastOne m e) :
    Format.binary64.targetExponent (totalExponent m e) = m.log2 + e - 52 := by
  have := h.value
  simp only [Format.targetExponent, totalExponent, Format.mantissaBits, Format.minExponent]
  omega

/-- Cutting a mantissa down to 53 bits. -/
theorem shift (h : AtLeastOne m e) (a : Accuracy) :
    ∃ em, shiftToTargetExponent .binary64 m e a = (em, m.log2 + e - 52) ∧
      em.mantissa = m / 2 ^ (m.log2 - 52) := by
  have hlog := h.le_log2
  have hamount : (m.log2 + e - 52 - e).toNat = m.log2 - 52 := by omega
  simp only [shiftToTargetExponent, shiftToExponent, h.targetExponent_eq, hamount]
  refine ⟨_, Prod.ext rfl ?_, ?_⟩
  · dsimp only
    omega
  · rw [mantissa_shiftRight, mantissa_ofMantissaAndAccuracy]

theorem cut_bounds (h : AtLeastOne m e) :
    2 ^ 52 ≤ m / 2 ^ (m.log2 - 52) ∧ m / 2 ^ (m.log2 - 52) < 2 ^ 53 := by
  have hlog := h.le_log2
  have hm : m ≠ 0 := by
    rintro rfl
    simp at hlog
  have hpos : 0 < 2 ^ (m.log2 - 52) := Nat.two_pow_pos _
  constructor
  · rw [Nat.le_div_iff_mul_le hpos, ← Nat.pow_add, Nat.add_sub_cancel' hlog]
    exact Nat.log2_self_le hm
  · rw [Nat.div_lt_iff_lt_mul hpos, ← Nat.pow_add]
    have : 53 + (m.log2 - 52) = m.log2 + 1 := by omega
    rw [this]
    exact Nat.lt_log2_self

end AtLeastOne

/-- A rounded value that is not below one: 53 bits and the exponent of the lowest. -/
structure Normal (u : UnpackedFloat) (m : Nat) (e : Int) : Prop where
  eq : ∃ hm, u = .finite .positive m e hm
  low : 2 ^ 52 ≤ m
  high : m < 2 ^ 53
  value : -52 ≤ e

theorem AtLeastOne.round {m : Nat} {e : Int} (h : AtLeastOne m e) :
    ∃ m' e', Normal (roundWithAccuracy .binary64 .positive m e .exact) m' e' ∧
      e' ≤ m.log2 + e - 51 := by
  have hvalue := h.value
  obtain ⟨em, hem, hmantissa⟩ := h.shift .exact
  have hcut := h.cut_bounds
  rw [← hmantissa] at hcut
  have hrounded := roundedMantissa_bounds em
  -- rounding may have carried into a 54th bit, so the mantissa is cut once more
  have hcarried : AtLeastOne em.roundedMantissa (m.log2 + e - 52) := by
    have hwide : 2 ^ 52 ≤ em.roundedMantissa := by omega
    have := (Nat.le_log2 (by omega)).2 hwide
    exact ⟨hwide, by omega⟩
  obtain ⟨em', hem', hmantissa'⟩ := hcarried.shift .exact
  have hcut' := hcarried.cut_bounds
  rw [← hmantissa'] at hcut'
  have hlog := hcarried.le_log2
  have hlog' : em.roundedMantissa.log2 < 54 := (Nat.log2_lt (by omega)).2 (by omega)
  refine ⟨em'.mantissa, em.roundedMantissa.log2 + (m.log2 + e - 52) - 52,
    ⟨⟨by omega, ?_⟩, hcut'.1, hcut'.2, ?_⟩, ?_⟩
  · simp only [roundWithAccuracy, hem, hem']
    rw [dif_neg (by omega)]
  · omega
  · omega

/-! ## Packing -/

theorem biased_eq (e : Int) :
    e + (Format.binary64.exponentBias : Nat) + (52 : Nat) = e + 1075 := by
  simp only [Format.exponentBias]
  omega

namespace Normal

variable {u : UnpackedFloat} {m : Nat} {e : Int}

theorem log2_of_normal (h : Normal u m e) : m.log2 = 52 := by
  have hlow := h.low
  have hhigh := h.high
  exact (Nat.log2_eq_iff (by omega)).2 ⟨hlow, hhigh⟩

theorem pack_eq (h : Normal u m e) : UnpackedFloat.pack .binary64 u =
    if 2 ^ 11 ≤ (e + 1075).toNat + 1 then packedInfinity .binary64 .positive
    else packComponents .binary64 .positive (BitVec.ofNat 11 (e + 1075).toNat)
      (BitVec.ofNat 52 m) := by
  obtain ⟨hm, rfl⟩ := h.eq
  simp only [UnpackedFloat.pack, biased_eq, log2_of_normal h, Format.mantissaBits]
  rfl

/-- The exponent of a packed value is not that of zero. -/
theorem unpackExponent_pack (h : Normal u m e) :
    unpackExponent (UnpackedFloat.pack .binary64 u) ≠ 0#11 := by
  have hvalue := h.value
  rw [h.pack_eq]
  split
  · rw [packedInfinity, unpackExponent_packComponents]
    decide
  · rw [unpackExponent_packComponents]
    intro hzero
    have := congrArg BitVec.toNat hzero
    simp only [BitVec.toNat_ofNat] at this
    omega

theorem toNat_append_one (m : Nat) (hlow : 2 ^ 52 ≤ m) (hhigh : m < 2 ^ 53) :
    (1#1 ++ BitVec.ofNat 52 m).toNat = m := by
  have hm : m = 1 <<< 52 + m % 2 ^ 52 := by omega
  rw [BitVec.toNat_append, BitVec.toNat_ofNat, BitVec.toNat_ofNat,
    ← Nat.shiftLeft_add_eq_or_of_lt (Nat.mod_lt _ (Nat.two_pow_pos 52))]
  exact hm.symm

/-- Packing keeps a value that is not large. -/
theorem unpack_pack (h : Normal u m e) (he : e ≤ 1) :
    UnpackedFloat.unpack .binary64 (UnpackedFloat.pack .binary64 u) = u := by
  have hvalue := h.value
  have hbiased : (BitVec.ofNat 11 (e + 1075).toNat).toNat = (e + 1075).toNat := by
    rw [BitVec.toNat_ofNat]
    omega
  have hnot : ∀ x : Nat, x ≠ (e + 1075).toNat → x < 2048 →
      BitVec.ofNat 11 (e + 1075).toNat ≠ BitVec.ofNat 11 x := by
    intro x hx hlt heq
    have := congrArg BitVec.toNat heq
    rw [hbiased, BitVec.toNat_ofNat] at this
    omega
  have hones : BitVec.ofNat 11 (e + 1075).toNat ≠ -1#11 := hnot 2047 (by omega) (by omega)
  have hzero := hnot 0 (by omega) (by omega)
  rw [h.pack_eq, if_neg (by omega)]
  obtain ⟨hm, rfl⟩ := h.eq
  simp only [UnpackedFloat.unpack, unpackMantissa_packComponents, unpackExponent_packComponents]
  rw [if_neg hones, if_neg hzero, UnpackedFloat.finite.injEq]
  refine ⟨by rw [unpackSign_packComponents]; rfl, toNat_append_one m h.low h.high, ?_⟩
  rw [hbiased]
  simp only [Format.exponentBias]
  omega

end Normal

/-! ## Counts -/

/-- A count below 2^53 is made normal by a shift to the left. -/
theorem normal_ofNat {n : Nat} (hpos : 0 < n) (hn : n < 2 ^ 53) :
    ∃ m e, Normal (UnpackedFloat.ofNat .binary64 n) m e ∧ e ≤ 1 := by
  have hlog : n.log2 < 53 := (Nat.log2_lt hpos.ne').2 hn
  have htarget : Format.binary64.targetExponent (totalExponent n 0) = n.log2 - 52 := by
    simp only [Format.targetExponent, totalExponent, Format.mantissaBits, Format.minExponent]
    omega
  have hshift : (0 - ((n.log2 : Int) - 52)).toNat = 52 - n.log2 := by omega
  have hround : UnpackedFloat.ofNat .binary64 n = roundWithAccuracy .binary64 .positive
      (n <<< (52 - n.log2)) (0 - (52 - n.log2 : Nat)) .exact := by
    have hcompare : compare (n : Int) 0 = .gt := Int.compare_eq_gt.2 (by omega)
    simp only [UnpackedFloat.ofNat, UnpackedFloat.ofInt, UnpackedFloat.normalize, hcompare,
      Int.toNat_natCast, UnpackedFloat.round, htarget, decreaseExponent, hshift]
  have hsum : n.log2 + (52 - n.log2) = 52 := by omega
  have hlow : 2 ^ 52 ≤ n <<< (52 - n.log2) := by
    rw [Nat.shiftLeft_eq]
    calc 2 ^ 52 = 2 ^ n.log2 * 2 ^ (52 - n.log2) := by rw [← Nat.pow_add, hsum]
      _ ≤ n * 2 ^ (52 - n.log2) := Nat.mul_le_mul_right _ (Nat.log2_self_le hpos.ne')
  have hhigh : n <<< (52 - n.log2) < 2 ^ 53 := by
    rw [Nat.shiftLeft_eq]
    calc n * 2 ^ (52 - n.log2) < 2 ^ (n.log2 + 1) * 2 ^ (52 - n.log2) :=
          Nat.mul_lt_mul_of_pos_right Nat.lt_log2_self (Nat.two_pow_pos _)
      _ = 2 ^ 53 := by rw [← Nat.pow_add, Nat.add_right_comm, hsum]
  have hwidth : (n <<< (52 - n.log2)).log2 = 52 := (Nat.log2_eq_iff (by omega)).2 ⟨hlow, hhigh⟩
  have hlarge : AtLeastOne (n <<< (52 - n.log2)) (0 - (52 - n.log2 : Nat)) :=
    ⟨hlow, by rw [hwidth]; omega⟩
  obtain ⟨m, e, hnormal, he⟩ := hlarge.round
  exact ⟨m, e, hround ▸ hnormal, by rw [hwidth] at he; omega⟩

/-- The product of one and a normal number, or of a count and one. -/
theorem normal_mul {m₁ m₂ : Nat} {e₁ e₂ : Int} (h₁ : 0 < m₁) (h₂ : 0 < m₂)
    (h : AtLeastOne (m₁ * m₂) (e₁ + e₂)) :
    ∃ m e, Normal (UnpackedFloat.mul .binary64 (.finite .positive m₁ e₁ h₁)
      (.finite .positive m₂ e₂ h₂)) m e := by
  obtain ⟨m, e, hnormal, -⟩ := h.round
  exact ⟨m, e, hnormal⟩

/-- What a number has in common with those that are not below one. -/
def Counted (x : Float) : Prop :=
  ∃ u m e, Normal u m e ∧ x.toModel.toBits.toBitVec = UnpackedFloat.pack .binary64 u

/-- A count below 2^53 is converted and multiplied by one. -/
theorem counted_of_lt {n : Nat} (hpos : 0 < n) (hn : n < 2 ^ 53) : Counted (Float.ofNat n) := by
  have heq : Float.ofNat n = .ofModel (.ofUInt64 n.toUInt64 * .ofBits 0x3FF0000000000000) := by
    change (if h : n < 2 ^ 53 ∧ 0 ≤ 22 then _ else _) = _
    rw [dif_pos ⟨hn, by decide⟩]
    rfl
  have hone : (Float.Model.ofBits 0x3FF0000000000000).unpack =
      .finite .positive (2 ^ 52) (-52) (by decide) := rfl
  obtain ⟨m, e, hnormal, he⟩ := normal_ofNat hpos hn
  have hcount : (Float.Model.ofUInt64 n.toUInt64).unpack = UnpackedFloat.ofNat .binary64 n := by
    have hsmall : n.toUInt64.toNat = n := by
      rw [Nat.toUInt64_eq, UInt64.toNat_ofNat']
      omega
    change UnpackedFloat.unpack .binary64 (UnpackedFloat.pack .binary64
      (UnpackedFloat.ofNat .binary64 n.toUInt64.toNat)) = _
    rw [hsmall]
    exact hnormal.unpack_pack he
  obtain ⟨hm, hfinite⟩ := hnormal.eq
  have hvalue := hnormal.value
  have hproduct : AtLeastOne (m * 2 ^ 52) (e + -52) := by
    have hlow := hnormal.low
    have hlog := (Nat.le_log2 (n := m * 2 ^ 52) (k := 104) (by omega)).2 (by omega)
    exact ⟨by omega, by omega⟩
  obtain ⟨m', e', hmul⟩ := normal_mul hm (by decide) hproduct
  refine ⟨_, m', e', hmul, ?_⟩
  rw [heq]
  change UnpackedFloat.pack .binary64 (UnpackedFloat.mul .binary64 _ _) = _
  rw [hcount, hfinite, hone]

/-- A larger one is rounded as a decimal. -/
theorem counted_of_ge {n : Nat} (hn : ¬n < 2 ^ 53) : Counted (Float.ofNat n) := by
  have hpos : n ≠ 0 := by omega
  have heq : Float.ofNat n = .ofModel (.ofScientific n 0) := by
    change (if h : n < 2 ^ 53 ∧ 0 ≤ 22 then _ else _) = _
    rw [dif_neg fun h => hn h.1]
    rfl
  have hscaled : AtLeastOne (n <<< 53 * 10 ^ 0) (-53 + 0) := by
    have hlog := (Nat.le_log2 (n := n * 2 ^ 53 * 10 ^ 0) (k := 53) (by omega)).2 (by omega)
    rw [Nat.shiftLeft_eq]
    exact ⟨by omega, by omega⟩
  obtain ⟨m, e, hmul⟩ := normal_mul (by rw [Nat.shiftLeft_eq]; omega) (by decide) hscaled
  refine ⟨_, m, e, hmul, ?_⟩
  rw [heq]
  change UnpackedFloat.pack .binary64 (UnpackedFloat.ofScientific .binary64 n 0) = _
  have hsafe : ¬(0 : Int) < -((2 ^ 11 : Int) + n.log2) := by omega
  rw [UnpackedFloat.ofScientific, dif_neg hpos, if_neg (by decide), if_neg hsafe,
    if_pos (by decide)]
  rfl

/-- A count is the number zero only if nothing was counted. -/
theorem ofNat_eq_zero_iff {n : Nat} : Float.ofNat n = Float.ofNat 0 ↔ n = 0 := by
  refine ⟨fun h => ?_, fun h => by rw [h]⟩
  by_contra hn
  have hcounted : Counted (Float.ofNat n) := by
    by_cases hsmall : n < 2 ^ 53
    · exact counted_of_lt (Nat.pos_of_ne_zero hn) hsmall
    · exact counted_of_ge hsmall
  obtain ⟨u, m, e, hnormal, hbits⟩ := hcounted
  have hzero : @unpackExponent .binary64 (Float.ofNat 0).toModel.toBits.toBitVec = 0#11 := by
    decide
  rw [← h, hbits] at hzero
  exact hnormal.unpackExponent_pack hzero

end Grove.Number

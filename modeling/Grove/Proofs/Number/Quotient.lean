/-
Quotients of doubles. The quotient of two finite doubles is their exact quotient, cut to a mantissa
and rounded to the nearest, so it is infinite from 2^1024 - 2^970 on, as what is read from a text is
(`Number.isFinite_div`): half a unit above the largest double the mantissa is rounded up to 2^53, and
that carries into the exponent.

A quotient is cut with two bits more than its mantissa, one for the half of a unit and one for all that
is below. What these say of the exact value (`Number.Stands`) is not changed when the mantissa is
cut further, and is all that rounding has to know.
-/
import Grove.Proofs.Number.Count
import Grove.Proofs.Number.Written

namespace Grove.Number

open Float.Model Float.Model.UnpackedFloat

/-! ## Extended mantissas -/

/-- A mantissa with its round bit and its sticky bit stands for a number: the bits tell whether half a
unit is left of it, and whether there is anything besides. -/
def Stands (em : ExtendedMantissa) (y : ℚ) : Prop :=
  ∃ r : ℚ, 0 ≤ r ∧ r < 1 / 2 ∧ (em.stickyBit = true ↔ 0 < r) ∧
    y = em.mantissa + (if em.roundBit then 1 / 2 else 0) + r

namespace Stands

variable {em : ExtendedMantissa} {y : ℚ} {n : Nat}

theorem bounds (h : Stands em y) : (em.mantissa : ℚ) ≤ y ∧ y < em.mantissa + 1 := by
  obtain ⟨r, hlow, hhigh, -, rfl⟩ := h
  split <;> constructor <;> linarith

theorem shiftRightOne (h : Stands em y) : Stands em.shiftRightOne (y / 2) := by
  obtain ⟨m, round, sticky⟩ := em
  obtain ⟨r, hlow, hhigh, hsticky, rfl⟩ := h
  have hm : (m : ℚ) = 2 * (m / 2 : Nat) + (m % 2 : Nat) := by
    exact_mod_cast (Nat.div_add_mod m 2).symm
  refine ⟨(if round then 1 / 4 else 0) + r / 2, ?_, ?_, ?_, ?_⟩
  · split <;> linarith
  · split <;> linarith
  · cases round with
    | true => simp [ExtendedMantissa.shiftRightOne]; linarith
    | false => simp [ExtendedMantissa.shiftRightOne, hsticky]
  · simp only [ExtendedMantissa.shiftRightOne, hm]
    rcases Nat.mod_two_eq_zero_or_one m with hbit | hbit <;> cases round <;> simp [hbit] <;> ring

theorem shiftRight (h : Stands em y) (k : Nat) : Stands (em >>> k) (y / 2 ^ k) := by
  change Stands (k.repeat ExtendedMantissa.shiftRightOne em) _
  induction k with
  | zero => simpa [Nat.repeat] using h
  | succ k ih =>
    rw [pow_succ, ← div_div]
    exact ih.shiftRightOne

/-- The nearest natural to a number is not below another from half a unit below that on. -/
theorem sub_half_le_iff {k : Nat} {d : ℚ} (hlow : -(1 / 2) ≤ d) (hhigh : d < 1 / 2) :
    (n : ℚ) - 1 / 2 ≤ k + d ↔ n ≤ k := by
  constructor
  · intro hle
    have hlt : (n : ℚ) < (k + 1 : Nat) := by
      push_cast
      linarith
    exact Nat.lt_succ_iff.1 (Nat.cast_lt.1 hlt)
  · intro hle
    have hle : (n : ℚ) ≤ k := Nat.cast_le.2 hle
    linarith

/-- A mantissa is rounded to an even number or beyond from half a unit below it on. -/
theorem le_roundedMantissa_iff (h : Stands em y) (heven : n % 2 = 0) :
    n ≤ em.roundedMantissa ↔ (n : ℚ) - 1 / 2 ≤ y := by
  obtain ⟨m, round, sticky⟩ := em
  obtain ⟨r, hlow, hhigh, hsticky, rfl⟩ := h
  have hhalf : (n : ℚ) - 1 / 2 ≤ m + (if round then 1 / 2 else 0) + r ↔
      n ≤ m + if round then 1 else 0 := by
    cases round with
    | true =>
      have hvalue : (m : ℚ) + 1 / 2 + r = (m + 1 : Nat) + (r - 1 / 2) := by
        push_cast
        ring
      simp only [if_true, hvalue]
      exact sub_half_le_iff (by linarith) (by linarith)
    | false =>
      simp only [Bool.false_eq_true, if_false, add_zero]
      exact sub_half_le_iff (by linarith) hhigh
  rw [hhalf]
  -- between two mantissas the even one is taken, which is not passed by an even number
  cases round <;> cases sticky <;>
    simp only [ExtendedMantissa.roundedMantissa, ExtendedMantissa.accuracy,
      Accuracy.roundToNearestEven, Bool.false_eq_true, if_true, if_false] <;> omega

end Stands

/-- What is cut off a quotient is told by its remainder. -/
theorem stands_quotient (num : Nat) {den : Nat} (hden : 0 < den) :
    Stands (.ofMantissaAndAccuracy (num / den) (accuracyOfFraction (num % den) den)) (num / den) := by
  have hden' : (0 : ℚ) < den := Nat.cast_pos.2 hden
  have hrest : num % den < den := Nat.mod_lt _ hden
  have hvalue : (num : ℚ) / den = (num / den : Nat) + ((num % den : Nat) : ℚ) / den := by
    rw [add_div' _ _ _ hden'.ne']
    congr 1
    exact_mod_cast (Nat.div_add_mod' num den).symm
  rw [hvalue]
  generalize num / den = m
  generalize num % den = rest at hrest ⊢
  have hfraction : (0 : ℚ) ≤ rest / den := by positivity
  unfold accuracyOfFraction
  split
  next hzero =>
    subst hzero
    exact ⟨0, le_rfl, by norm_num, by simp [ExtendedMantissa.ofMantissaAndAccuracy],
      by simp [ExtendedMantissa.ofMantissaAndAccuracy]⟩
  next hne =>
    have hpos : (0 : ℚ) < rest / den := div_pos (Nat.cast_pos.2 (Nat.pos_of_ne_zero hne)) hden'
    have hone : (rest : ℚ) / den < 1 := (div_lt_one hden').2 (Nat.cast_lt.2 hrest)
    cases hcompare : compare (2 * rest) den with
    | lt =>
      have hlt : (rest : ℚ) / den < 1 / 2 := by
        rw [div_lt_div_iff₀ hden' two_pos]
        exact_mod_cast (by have := Nat.compare_eq_lt.1 hcompare; omega : rest * 2 < 1 * den)
      exact ⟨rest / den, hfraction, hlt, by simp [ExtendedMantissa.ofMantissaAndAccuracy, hpos],
        by simp [ExtendedMantissa.ofMantissaAndAccuracy]⟩
    | eq =>
      have heq : (rest : ℚ) / den = 1 / 2 := by
        rw [div_eq_div_iff hden'.ne' two_ne_zero]
        exact_mod_cast (by have := Nat.compare_eq_eq.1 hcompare; omega : rest * 2 = 1 * den)
      exact ⟨0, le_rfl, by norm_num, by simp [ExtendedMantissa.ofMantissaAndAccuracy],
        by simp [ExtendedMantissa.ofMantissaAndAccuracy, heq]⟩
    | gt =>
      have hgt : 1 / 2 < (rest : ℚ) / den := by
        rw [div_lt_div_iff₀ two_pos hden']
        exact_mod_cast (by have := Nat.compare_eq_gt.1 hcompare; omega : 1 * den < rest * 2)
      exact ⟨rest / den - 1 / 2, by linarith, by linarith,
        by simp only [ExtendedMantissa.ofMantissaAndAccuracy, true_iff]; linarith,
        by simp only [ExtendedMantissa.ofMantissaAndAccuracy, if_true]; ring⟩

/-! ## Rounding -/

section Rounding

variable {m : Nat} {e : Int} {a : Accuracy} {y : ℚ}

/-- The exponent to which a mantissa is cut: 53 bits are left of it, or fewer at the least exponent. -/
def cutExponent (m : Nat) (e : Int) : Int := max (m.log2 + e - 52) (-1074)

theorem targetExponent_eq (m : Nat) (e : Int) :
    Format.binary64.targetExponent (totalExponent m e) = cutExponent m e := by
  simp only [Format.targetExponent, totalExponent, Format.mantissaBits, Format.minExponent, cutExponent]
  omega

/-- A mantissa with no bit too few to be cut. -/
def Wide (m : Nat) (e : Int) : Prop := 52 ≤ m.log2 ∨ e ≤ -1074

theorem Wide.le_cutExponent (h : Wide m e) : e ≤ cutExponent m e := by
  unfold Wide at h
  unfold cutExponent
  omega

theorem Wide.shift (h : Wide m e) (a : Accuracy) : shiftToTargetExponent .binary64 m e a =
    (ExtendedMantissa.ofMantissaAndAccuracy m a >>> (cutExponent m e - e).toNat, cutExponent m e) := by
  have hle := h.le_cutExponent
  simp only [shiftToTargetExponent, shiftToExponent, targetExponent_eq]
  refine Prod.ext rfl ?_
  dsimp only
  omega

theorem cut_lt (m : Nat) (e : Int) : m / 2 ^ (cutExponent m e - e).toNat < 2 ^ 53 := by
  rw [Nat.div_lt_iff_lt_mul (Nat.two_pow_pos _), ← Nat.pow_add]
  refine Nat.lt_log2_self.trans_le (Nat.pow_le_pow_right Nat.two_pos ?_)
  unfold cutExponent
  omega

/-- A mantissa of 53 bits or fewer is left as it is, and 2^53 has one bit too many. -/
theorem shift_rounded {r : Nat} (hr : r ≤ 2 ^ 53) {t : Int} (ht : -1074 ≤ t) :
    (shiftToTargetExponent .binary64 r t .exact).1.mantissa = (if r < 2 ^ 53 then r else 2 ^ 52) ∧
    (shiftToTargetExponent .binary64 r t .exact).2 = if r < 2 ^ 53 then t else t + 1 := by
  have hamount : (cutExponent r t - t).toNat = if r < 2 ^ 53 then 0 else 1 := by
    unfold cutExponent
    split
    next hlt =>
      have hlog : r.log2 ≤ 52 := by
        by_cases hzero : r = 0
        · simp [hzero]
        · exact Nat.le_of_lt_succ ((Nat.log2_lt hzero).2 hlt)
      omega
    next hge =>
      obtain rfl : r = 2 ^ 53 := by omega
      rw [Nat.log2_two_pow]
      omega
  simp only [shiftToTargetExponent, shiftToExponent, targetExponent_eq, mantissa_shiftRight,
    mantissa_ofMantissaAndAccuracy, hamount]
  split
  next => simp
  next hge =>
    obtain rfl : r = 2 ^ 53 := by omega
    simp

/-- A mantissa as it is cut and rounded. -/
def rounded (m : Nat) (e : Int) (a : Accuracy) : Nat :=
  (ExtendedMantissa.ofMantissaAndAccuracy m a >>> (cutExponent m e - e).toNat).roundedMantissa

theorem rounded_bounds (m : Nat) (e : Int) (a : Accuracy) :
    m / 2 ^ (cutExponent m e - e).toNat ≤ rounded m e a ∧ rounded m e a ≤ 2 ^ 53 := by
  have hcut := cut_lt m e
  have hrounded := roundedMantissa_bounds
    (ExtendedMantissa.ofMantissaAndAccuracy m a >>> (cutExponent m e - e).toNat)
  rw [mantissa_shiftRight, mantissa_ofMantissaAndAccuracy] at hrounded
  exact ⟨hrounded.1, by unfold rounded; omega⟩

/-- The exponent of what is rounded: one more if the mantissa got one bit too many. -/
def roundedExponent (m : Nat) (e : Int) (a : Accuracy) : Int :=
  if rounded m e a < 2 ^ 53 then cutExponent m e else cutExponent m e + 1

theorem Wide.round (h : Wide m e) (s : Sign) (a : Accuracy) :
    (rounded m e a = 0 ∧ roundWithAccuracy .binary64 s m e a = .zero s) ∨
    ∃ m' hm', rounded m e a ≠ 0 ∧
      roundWithAccuracy .binary64 s m e a = .finite s m' (roundedExponent m e a) hm' := by
  have hle : -1074 ≤ cutExponent m e := le_max_right _ _
  obtain ⟨hmantissa, hexponent⟩ := shift_rounded (rounded_bounds m e a).2 hle
  generalize hshifted : shiftToTargetExponent .binary64 (rounded m e a) (cutExponent m e) .exact =
    shifted at hmantissa hexponent
  have heq : roundWithAccuracy .binary64 s m e a = if h : shifted.1.mantissa = 0 then .zero s
      else .finite s _ shifted.2 (Nat.pos_of_ne_zero h) := by
    simp only [roundWithAccuracy, h.shift, ← hshifted]
    rfl
  by_cases hzero : rounded m e a = 0
  · have hnone : shifted.1.mantissa = 0 := by
      rw [hmantissa, hzero]
      rfl
    exact .inl ⟨hzero, by rw [heq, dif_pos hnone]⟩
  · have hsome : shifted.1.mantissa ≠ 0 := by
      rw [hmantissa]
      split <;> omega
    refine .inr ⟨_, Nat.pos_of_ne_zero hsome, hzero, ?_⟩
    rw [heq, dif_neg hsome, hexponent, roundedExponent]

/-- Above the least exponent no bit is lost: 53 are left. -/
theorem Wide.le_cut (h : Wide m e) (habove : -1074 < cutExponent m e) :
    2 ^ 52 ≤ m / 2 ^ (cutExponent m e - e).toNat := by
  unfold Wide at h
  unfold cutExponent at habove ⊢
  have hlog : 52 ≤ m.log2 := by omega
  have hm : m ≠ 0 := by
    rintro rfl
    simp at hlog
  have hamount : 52 + (max (m.log2 + e - 52) (-1074) - e).toNat = m.log2 := by omega
  rw [Nat.le_div_iff_mul_le (Nat.two_pow_pos _), ← Nat.pow_add, hamount]
  exact Nat.log2_self_le hm

/-- The least value that does not fit in, in halves of the largest unit. -/
theorem limit_eq : (2 : ℚ) ^ 1024 - 2 ^ 970 = (2 ^ 54 - 1) * 2 ^ (970 : Int) := by
  have hlarge : (2 : ℚ) ^ 1024 = 2 ^ 54 * 2 ^ 970 := by rw [← pow_add]
  have hunit : (2 : ℚ) ^ (970 : Int) = 2 ^ 970 := zpow_natCast 2 970
  rw [hlarge, hunit, sub_one_mul]

/-- What is rounded does not fit in from half a unit above the largest double on. -/
theorem Wide.exceeds_iff (h : Wide m e) (hy : Stands (.ofMantissaAndAccuracy m a) y) :
    (rounded m e a ≠ 0 ∧ 972 ≤ roundedExponent m e a) ↔ 2 ^ 1024 - 2 ^ 970 ≤ y * 2 ^ e := by
  have hbounds := rounded_bounds m e a
  have hbelow := cut_lt m e
  have habove := h.le_cut
  have hstands := hy.shiftRight (cutExponent m e - e).toNat
  have htop : 2 ^ 53 ≤ rounded m e a ↔ _ := hstands.le_roundedMantissa_iff (n := 2 ^ 53) rfl
  have hcut := hstands.bounds
  rw [mantissa_shiftRight, mantissa_ofMantissaAndAccuracy] at hcut
  have hvalue : y * 2 ^ e = y / 2 ^ (cutExponent m e - e).toNat * 2 ^ cutExponent m e := by
    have hamount : cutExponent m e = e + (cutExponent m e - e).toNat := by
      have := h.le_cutExponent
      omega
    have hscale : (2 : ℚ) ^ cutExponent m e = 2 ^ e * 2 ^ (cutExponent m e - e).toNat := by
      rw [← zpow_natCast, ← zpow_add₀ two_ne_zero, ← hamount]
    rw [hscale]
    field_simp
  rw [hvalue, roundedExponent]
  generalize y / 2 ^ (cutExponent m e - e).toNat = z at htop hcut
  generalize m / 2 ^ (cutExponent m e - e).toNat = m' at hbounds hbelow habove hcut
  generalize rounded m e a = r at hbounds htop
  generalize cutExponent m e = cut at habove
  obtain ⟨hlow, hhigh⟩ := hcut
  have hscaled : ∀ k : Int, (2 : ℚ) ^ k = 2 ^ (k - 970) * 2 ^ (970 : Int) := by
    intro k
    rw [← zpow_add₀ two_ne_zero, Int.sub_add_cancel]
  have hunit : (0 : ℚ) < 2 ^ (970 : Int) := zpow_pos two_pos _
  rw [limit_eq, hscaled cut, ← mul_assoc, mul_le_mul_iff_left₀ hunit]
  rcases lt_trichotomy cut 971 with hlt | rfl | hgt
  · refine iff_of_false ?_ (not_le.2 ?_)
    · rintro ⟨-, hlarge⟩
      split at hlarge <;> omega
    · have hz : z < 2 ^ 53 := by
        have : ((m' + 1 : Nat) : ℚ) ≤ (2 ^ 53 : Nat) := Nat.cast_le.2 hbelow
        push_cast at this
        linarith
      have hscale := zpow_le_zpow_right₀ (one_le_two : (1 : ℚ) ≤ 2) (by omega : cut - 970 ≤ 0)
      calc z * 2 ^ (cut - 970) ≤ 2 ^ 53 * 2 ^ (0 : Int) :=
            mul_le_mul hz.le hscale (by positivity) (by positivity)
        _ < 2 ^ 54 - 1 := by norm_num
  · -- the mantissa is rounded up to 2^53 from half a unit below it on
    have hhalf : 2 ^ 54 - 1 ≤ z * 2 ^ ((971 : Int) - 970) ↔ 2 ^ 53 ≤ r := by
      rw [htop]
      norm_num
      constructor <;> intro h <;> linarith
    rw [hhalf]
    split <;> omega
  · have hwide := habove (by omega)
    refine iff_of_true ⟨by omega, by split <;> omega⟩ ?_
    have hz : (2 : ℚ) ^ 52 ≤ z := by
      have : ((2 ^ 52 : Nat) : ℚ) ≤ m' := Nat.cast_le.2 hwide
      push_cast at this
      linarith
    have hscale := zpow_le_zpow_right₀ (one_le_two : (1 : ℚ) ≤ 2) (by omega : 2 ≤ cut - 970)
    calc (2 : ℚ) ^ 54 - 1 ≤ 2 ^ 52 * 2 ^ (2 : Int) := by norm_num
      _ ≤ z * 2 ^ (cut - 970) := mul_le_mul hz hscale (by positivity) (by linarith)

end Rounding

/-! ## Packing -/

theorem unpack_packedInfinity (s : Sign) :
    UnpackedFloat.unpack .binary64 (packedInfinity .binary64 s) = .infinity s := by
  cases s <;> rfl

theorem pack_of_large {e : Int} (he : 972 ≤ e) (s : Sign) (m : Nat) (hm : 0 < m) :
    UnpackedFloat.pack .binary64 (.finite s m e hm) = packedInfinity .binary64 s := by
  have hlarge : 2 ^ 11 ≤ (e + 1075).toNat + 1 := by omega
  simp only [UnpackedFloat.pack, biased_eq]
  exact if_pos hlarge

/-- What does not fit in is packed as infinity, and all else with an exponent below that of infinity. -/
theorem isFinite_unpack_pack (s : Sign) (m : Nat) (e : Int) (hm : 0 < m) :
    (UnpackedFloat.unpack .binary64 (UnpackedFloat.pack .binary64 (.finite s m e hm))).isFinite = true ↔
      e < 972 := by
  by_cases he : 972 ≤ e
  · rw [pack_of_large he, unpack_packedInfinity]
    exact iff_of_false nofun (by omega)
  · refine iff_of_true ((isFinite_unpack _).2 ?_) (by omega)
    have hsmall : ¬2 ^ Format.binary64.exponentBits ≤ (e + 1075).toNat + 1 := by
      change ¬2 ^ 11 ≤ _
      omega
    simp only [UnpackedFloat.pack, biased_eq]
    rw [if_neg hsmall]
    split
    · rw [unpackExponent_packComponents]
      intro hones
      have hones := congrArg BitVec.toNat hones
      rw [BitVec.toNat_ofNat] at hones
      have hall : (-1#11).toNat = 2047 := rfl
      omega
    · rw [unpackExponent_packComponents]
      decide

/-- What is a number is still one when it is packed. -/
theorem isNaN_unpack_pack {u : UnpackedFloat} (h : u.isNaN = false) :
    (UnpackedFloat.unpack .binary64 (UnpackedFloat.pack .binary64 u)).isNaN = false := by
  cases u with
  | notANumber => cases h
  | infinity s => exact congrArg UnpackedFloat.isNaN (unpack_packedInfinity s)
  | zero s => exact congrArg UnpackedFloat.isNaN unpack_packedZero
  | finite s m e hm =>
    by_cases hlarge : 972 ≤ e
    · rw [pack_of_large hlarge, unpack_packedInfinity]
      rfl
    · have hfinite := (isFinite_unpack_pack s m e hm).2 (by omega)
      cases hu : UnpackedFloat.unpack .binary64 (UnpackedFloat.pack .binary64 (.finite s m e hm)) with
      | notANumber => simp [hu, UnpackedFloat.isFinite] at hfinite
      | infinity s => rfl
      | zero s => rfl
      | finite s m e hm => rfl

/-- What is rounded is finite below half a unit above the largest double. -/
theorem Wide.isFinite_round {m : Nat} {e : Int} {a : Accuracy} {y : ℚ} (h : Wide m e)
    (hy : Stands (.ofMantissaAndAccuracy m a) y) (s : Sign) :
    (UnpackedFloat.unpack .binary64 (UnpackedFloat.pack .binary64
      (roundWithAccuracy .binary64 s m e a))).isFinite = true ↔ y * 2 ^ e < 2 ^ 1024 - 2 ^ 970 := by
  have hexceeds := h.exceeds_iff hy
  rw [← not_le, ← hexceeds]
  rcases h.round s a with ⟨hzero, hround⟩ | ⟨m', hm', hnonzero, hround⟩
  · rw [hround, UnpackedFloat.pack, unpack_packedZero]
    exact iff_of_true rfl fun hlarge => hlarge.1 hzero
  · rw [hround, isFinite_unpack_pack, not_and, not_le]
    exact ⟨fun hlarge _ => hlarge, fun hlarge => hlarge hnonzero⟩

/-! ## Magnitudes -/

/-- The exact magnitude of a double that is finite. -/
def size (x : Float) : ℚ := (decode x).significand * 2 ^ (decode x).exponent

theorem size_of_unpack_zero {x : Float} {s : Sign} (h : x.toModel.unpack = .zero s) : size x = 0 := by
  have hexponent := toNat_unpackExponent x.toBits
  have hfraction := toNat_unpackMantissa x.toBits
  change UnpackedFloat.unpack .binary64 x.toBits.toBitVec = _ at h
  unfold UnpackedFloat.unpack at h
  dsimp only at h
  split at h
  next => split at h <;> cases h
  next =>
    split at h
    next hzero =>
      split at h
      next hnone =>
        rw [hzero] at hexponent
        rw [hnone] at hfraction
        simp [size, decode, ← hexponent, ← hfraction]
      next => cases h
    next => cases h

theorem size_of_unpack_finite {x : Float} {s : Sign} {m : Nat} {e : Int} {hm : 0 < m}
    (h : x.toModel.unpack = .finite s m e hm) : size x = m * 2 ^ e := by
  have hexponent := toNat_unpackExponent x.toBits
  have hfraction := toNat_unpackMantissa x.toBits
  change UnpackedFloat.unpack .binary64 x.toBits.toBitVec = _ at h
  unfold UnpackedFloat.unpack at h
  dsimp only at h
  split at h
  next => split at h <;> cases h
  next =>
    split at h
    next hzero =>
      split at h
      next => cases h
      next =>
        obtain ⟨-, rfl, rfl⟩ := UnpackedFloat.finite.inj h
        rw [hzero] at hexponent
        rw [hzero, hfraction]
        simp [size, decode, ← hexponent, Format.exponentBias]
    next hnormal =>
      obtain ⟨-, rfl, rfl⟩ := UnpackedFloat.finite.inj h
      have hnonzero : exponentField x.toBits ≠ 0 := fun hzero =>
        hnormal (BitVec.toNat_inj.1 (hexponent.trans hzero))
      have hlow : (@unpackMantissa .binary64 x.toBits.toBitVec).toNat < 2 ^ 52 := BitVec.isLt _
      have hmantissa : (1#1 ++ @unpackMantissa .binary64 x.toBits.toBitVec).toNat =
          Nat.pow 2 52 + fractionField x.toBits := by
        rw [BitVec.toNat_append, ← hfraction, ← Nat.shiftLeft_add_eq_or_of_lt hlow]
        rfl
      simp only [size, decode, beq_iff_eq, if_neg hnonzero]
      rw [hmantissa, hexponent]
      rfl

/-! ## Quotients -/

section Quotients

variable {m₁ m₂ : Nat} {e₁ e₂ : Int}

/-- The exponent to which a dividend is brought before it is divided. -/
def dividendExponent (m₁ : Nat) (e₁ : Int) (m₂ : Nat) (e₂ : Int) : Int :=
  min (e₁ - e₂) (max (m₁.log2 + e₁ - (m₂.log2 + e₂) - 53) (-1074))

theorem divCore_eq (m₁ : Nat) (e₁ : Int) (m₂ : Nat) (e₂ : Int) : divCore .binary64 m₁ e₁ m₂ e₂ =
    (m₁ * 2 ^ (e₁ - e₂ - dividendExponent m₁ e₁ m₂ e₂).toNat / m₂, dividendExponent m₁ e₁ m₂ e₂,
      accuracyOfFraction (m₁ * 2 ^ (e₁ - e₂ - dividendExponent m₁ e₁ m₂ e₂).toNat % m₂) m₂) := by
  have htarget : min (e₁ - e₂)
      (Format.binary64.targetExponent (totalExponent m₁ e₁ - totalExponent m₂ e₂)) =
      dividendExponent m₁ e₁ m₂ e₂ := by
    simp only [Format.targetExponent, totalExponent, Format.mantissaBits, Format.minExponent,
      dividendExponent]
    omega
  simp only [divCore, htarget, Nat.shiftLeft_eq]

/-- The dividend is brought to an exponent at which the quotient has enough bits. -/
theorem wide_quotient (e₁ e₂ : Int) (h₁ : 0 < m₁) (h₂ : 0 < m₂) :
    Wide (m₁ * 2 ^ (e₁ - e₂ - dividendExponent m₁ e₁ m₂ e₂).toNat / m₂)
      (dividendExponent m₁ e₁ m₂ e₂) := by
  by_cases hleast : dividendExponent m₁ e₁ m₂ e₂ ≤ -1074
  · exact .inr hleast
  · refine .inl ?_
    have hbits : m₂.log2 + 1 + 52 ≤ m₁.log2 + (e₁ - e₂ - dividendExponent m₁ e₁ m₂ e₂).toNat := by
      unfold dividendExponent at hleast ⊢
      omega
    generalize (e₁ - e₂ - dividendExponent m₁ e₁ m₂ e₂).toNat = k at hbits
    have hquotient : 2 ^ 52 ≤ m₁ * 2 ^ k / m₂ := by
      rw [Nat.le_div_iff_mul_le h₂]
      calc 2 ^ 52 * m₂ ≤ 2 ^ 52 * 2 ^ (m₂.log2 + 1) := Nat.mul_le_mul_left _ Nat.lt_log2_self.le
        _ = 2 ^ (m₂.log2 + 1 + 52) := by rw [← Nat.pow_add, Nat.add_comm]
        _ ≤ 2 ^ (m₁.log2 + k) := Nat.pow_le_pow_right Nat.two_pos hbits
        _ = 2 ^ m₁.log2 * 2 ^ k := Nat.pow_add ..
        _ ≤ m₁ * 2 ^ k := Nat.mul_le_mul_right _ (Nat.log2_self_le h₁.ne')
    exact (Nat.le_log2 (by omega)).2 hquotient

/-- The quotient of two finite doubles is finite just if the exact one is below half a unit above the
largest double. -/
theorem isFinite_quotient (s₁ s₂ : Sign) (h₁ : 0 < m₁) (h₂ : 0 < m₂) :
    (UnpackedFloat.unpack .binary64 (UnpackedFloat.pack .binary64
      (UnpackedFloat.div .binary64 (.finite s₁ m₁ e₁ h₁) (.finite s₂ m₂ e₂ h₂)))).isFinite = true ↔
    (m₁ * 2 ^ e₁ : ℚ) < (2 ^ 1024 - 2 ^ 970) * (m₂ * 2 ^ e₂) := by
  have hwide := wide_quotient e₁ e₂ h₁ h₂
  have hpos : (0 : ℚ) < m₂ * 2 ^ e₂ := by positivity
  simp only [UnpackedFloat.div, divCore_eq]
  rw [hwide.isFinite_round (stands_quotient _ h₂), ← div_lt_iff₀ hpos]
  have hle : dividendExponent m₁ e₁ m₂ e₂ ≤ e₁ - e₂ := min_le_left _ _
  generalize dividendExponent m₁ e₁ m₂ e₂ = t at hle
  -- what the exponent is lowered by is what the mantissa is multiplied by
  have hamount : e₁ = (e₁ - e₂ - t).toNat + t + e₂ := by omega
  have hscale : (2 : ℚ) ^ e₁ = 2 ^ (e₁ - e₂ - t).toNat * 2 ^ t * 2 ^ e₂ := by
    rw [← zpow_natCast, ← zpow_add₀ two_ne_zero, ← zpow_add₀ two_ne_zero, ← hamount]
  have hvalue : (↑(m₁ * 2 ^ (e₁ - e₂ - t).toNat) / m₂ * 2 ^ t : ℚ) = m₁ * 2 ^ e₁ / (m₂ * 2 ^ e₂) := by
    rw [hscale]
    push_cast
    field_simp
  rw [hvalue]

/-- A divisor that is not zero is infinite, or has a magnitude to divide by. -/
theorem divisor_cases {b : Float} (hb : b.isNaN = false) (hzero : (b == 0.0) = false) :
    (∃ s, b.toModel.unpack = .infinity s) ∨ ∃ s m e hm, b.toModel.unpack = .finite s m e hm := by
  change UnpackedFloat.isNaN b.toModel.unpack = false at hb
  change UnpackedFloat.beq b.toModel.unpack (.zero .positive) = false at hzero
  cases hunpack : b.toModel.unpack with
  | notANumber => simp [hunpack, UnpackedFloat.isNaN] at hb
  | infinity s => exact .inl ⟨s, rfl⟩
  | zero s =>
    rw [hunpack] at hzero
    cases hzero
  | finite s m e hm => exact .inr ⟨s, m, e, hm, rfl⟩

theorem dividend_cases {a : Float} (ha : a.isFinite = true) :
    (∃ s, a.toModel.unpack = .zero s) ∨ ∃ s m e hm, a.toModel.unpack = .finite s m e hm := by
  change UnpackedFloat.isFinite a.toModel.unpack = true at ha
  cases hunpack : a.toModel.unpack with
  | notANumber => simp [hunpack, UnpackedFloat.isFinite] at ha
  | infinity s => simp [hunpack, UnpackedFloat.isFinite] at ha
  | zero s => exact .inl ⟨s, rfl⟩
  | finite s m e hm => exact .inr ⟨s, m, e, hm, rfl⟩

/-- A quotient whose dividend is finite is finite if its divisor is infinite, or if the exact quotient
is below half a unit above the largest double. -/
theorem isFinite_div {a b : Float} (ha : a.isFinite = true) (hb : b.isNaN = false)
    (hzero : (b == 0.0) = false) :
    (a / b).isFinite = true ↔ b.isInf = true ∨ size a < (2 ^ 1024 - 2 ^ 970) * size b := by
  change (UnpackedFloat.unpack .binary64 (UnpackedFloat.pack .binary64 (UnpackedFloat.div .binary64
    a.toModel.unpack b.toModel.unpack))).isFinite = true ↔ UnpackedFloat.isInf b.toModel.unpack = true ∨ _
  rcases divisor_cases hb hzero with ⟨s₂, hdivisor⟩ | ⟨s₂, m₂, e₂, hm₂, hdivisor⟩
  · refine iff_of_true ?_ (.inl (by rw [hdivisor]; rfl))
    rcases dividend_cases ha with ⟨s₁, hdividend⟩ | ⟨s₁, m₁, e₁, hm₁, hdividend⟩ <;>
      rw [hdividend, hdivisor, UnpackedFloat.div, UnpackedFloat.pack, unpack_packedZero] <;> rfl
  · have hfinite : ¬UnpackedFloat.isInf b.toModel.unpack = true := by rw [hdivisor]; nofun
    rw [or_iff_right hfinite, size_of_unpack_finite hdivisor]
    rcases dividend_cases ha with ⟨s₁, hdividend⟩ | ⟨s₁, m₁, e₁, hm₁, hdividend⟩
    · rw [hdividend, hdivisor, UnpackedFloat.div, UnpackedFloat.pack, unpack_packedZero,
        size_of_unpack_zero hdividend]
      have hlimit : (0 : ℚ) < 2 ^ 1024 - 2 ^ 970 := by
        rw [limit_eq]
        positivity
      exact iff_of_true rfl (by positivity)
    · rw [hdividend, hdivisor, isFinite_quotient, size_of_unpack_finite hdividend]

/-- A quotient whose dividend is finite and whose divisor is not zero is a number. -/
theorem isNaN_div {a b : Float} (ha : a.isFinite = true) (hb : b.isNaN = false)
    (hzero : (b == 0.0) = false) : (a / b).isNaN = false := by
  refine isNaN_unpack_pack (u := UnpackedFloat.div .binary64 a.toModel.unpack b.toModel.unpack) ?_
  rcases dividend_cases ha with ⟨s₁, hdividend⟩ | ⟨s₁, m₁, e₁, hm₁, hdividend⟩
  · rw [hdividend]
    rcases divisor_cases hb hzero with ⟨s₂, hdivisor⟩ | ⟨s₂, m₂, e₂, hm₂, hdivisor⟩ <;>
      rw [hdivisor] <;> rfl
  · rw [hdividend]
    rcases divisor_cases hb hzero with ⟨s₂, hdivisor⟩ | ⟨s₂, m₂, e₂, hm₂, hdivisor⟩
    · rw [hdivisor]
      rfl
    · rw [hdivisor, UnpackedFloat.div]
      dsimp only [roundWithAccuracy]
      split <;> rfl

end Quotients

end Grove.Number

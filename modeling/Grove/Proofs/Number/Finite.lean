/-
Which doubles are finite: those whose exponent does not have all bits set (`Number.isFinite_ofBits`).

Clearing the bits that stand for less than one sets none, so a double that is truncated is whole just
if it is finite (`Number.isWhole_truncate`). What is left as it is stands for an integer
(`Number.isWhole_iff`).

A natural is rounded to infinity from 2^1024 - 2^970 on (`Number.isFinite_nearest`), which is half a
unit above the largest double: what rounds to 53 bits below the exponent of infinity stays below it,
and what rounds up to the next power of two carries into the exponent. The grammar of integers sets
no bound to the digits, so a text of it may stand for infinity (`Number.isFinite_ofDecimalText`).

How a double is packed again once it is unpacked (`pack_unpack`) is told in no file of Mathlib by
itself, so it is imported whole here.
-/
import Mathlib
import Grove.Number.Binary
import Grove.Number.Reading

namespace Grove.Number

open Float.Model Float.Model.UnpackedFloat

variable {bits : UInt64} {cs : List Char} {n a : Nat}

/-! ## The exponent -/

theorem toNat_unpackExponent (bits : UInt64) :
    (@unpackExponent .binary64 bits.toBitVec).toNat = exponentField bits := by
  rw [unpackExponent_def, BitVec.extractLsb'_toNat, Nat.shiftRight_eq_div_pow]
  rfl

theorem unpackExponent_eq_ones_iff :
    @unpackExponent .binary64 bits.toBitVec = -1#11 ↔ exponentField bits = 2047 := by
  rw [← toNat_unpackExponent, ← BitVec.toNat_inj]
  rfl

theorem isFinite_unpack (b : BitVec 64) :
    (UnpackedFloat.unpack .binary64 b).isFinite = true ↔ @unpackExponent .binary64 b ≠ -1#11 := by
  unfold UnpackedFloat.unpack
  by_cases hones : @unpackExponent .binary64 b = -1#11
  · simp only [hones, if_true]
    split <;> simp [UnpackedFloat.isFinite]
  · simp only [hones, if_false]
    split
    · split <;> simpa [UnpackedFloat.isFinite] using hones
    · simpa [UnpackedFloat.isFinite] using hones

/-- Packing keeps the exponent of what was unpacked, though not the bits of what is no number. -/
theorem unpackExponent_pack_unpack (b : BitVec 64) :
    unpackExponent (UnpackedFloat.pack .binary64 (UnpackedFloat.unpack .binary64 b)) =
      @unpackExponent .binary64 b := by
  rw [pack_unpack]
  split
  next hnan =>
    rw [packedNaN, unpackExponent_packComponents]
    exact (of_decide_eq_true hnan).1.symm
  next => rfl

theorem unpackExponent_pack_neg (u : UnpackedFloat) :
    unpackExponent (UnpackedFloat.pack .binary64 u.neg) =
      unpackExponent (UnpackedFloat.pack .binary64 u) := by
  cases u with
  | notANumber => rfl
  | infinity s =>
    simp only [UnpackedFloat.neg, UnpackedFloat.pack, packedInfinity, unpackExponent_packComponents]
  | zero s =>
    simp only [UnpackedFloat.neg, UnpackedFloat.pack, packedZero, unpackExponent_packComponents]
  | finite s m e hm =>
    simp only [UnpackedFloat.neg, UnpackedFloat.pack]
    split
    · simp only [packedInfinity, unpackExponent_packComponents]
    · split <;> simp only [unpackExponent_packComponents]

/-- A double is finite unless all bits of its exponent are set. -/
theorem isFinite_iff {x : Float} : x.isFinite = true ↔ exponentField x.toBits ≠ 2047 :=
  (isFinite_unpack x.toBits.toBitVec).trans unpackExponent_eq_ones_iff.not

theorem isFinite_ofBits (bits : UInt64) :
    (Float.ofBits bits).isFinite = true ↔ exponentField bits ≠ 2047 := by
  refine (isFinite_unpack _).trans ?_
  change unpackExponent (UnpackedFloat.pack .binary64
    (UnpackedFloat.unpack .binary64 bits.toBitVec)) ≠ _ ↔ _
  rw [unpackExponent_pack_unpack]
  exact unpackExponent_eq_ones_iff.not

theorem isFinite_neg (x : Float) : (-x).isFinite = x.isFinite := by
  rw [Bool.eq_iff_iff]
  refine (isFinite_unpack _).trans (Iff.trans ?_ (isFinite_unpack _).symm)
  change unpackExponent (UnpackedFloat.pack .binary64
    (UnpackedFloat.unpack .binary64 x.toBits.toBitVec).neg) ≠ _ ↔
      @unpackExponent .binary64 x.toBits.toBitVec ≠ _
  rw [unpackExponent_pack_neg, unpackExponent_pack_unpack]

theorem toBits_ofBits (h : exponentField bits ≠ 2047) : (Float.ofBits bits).toBits = bits := by
  have hnumber : @isNaNBits .binary64 bits.toBitVec = false :=
    decide_eq_false fun hnan => h (unpackExponent_eq_ones_iff.1 hnan.1)
  have hbits : UnpackedFloat.pack .binary64 (UnpackedFloat.unpack .binary64 bits.toBitVec) =
      bits.toBitVec := by
    rw [pack_unpack, hnumber]
    rfl
  exact UInt64.toBitVec_inj.1 hbits

/-! ## Truncating -/

/-- How many low bits are cleared of a double with the given biased exponent. -/
def clearedBits (biased : Nat) : Nat := if biased < 1023 then 63 else 1075 - biased

theorem toNat_truncateBits (bits : UInt64) : (truncateBits bits).toNat =
    bits.toNat / 2 ^ clearedBits (exponentField bits) * 2 ^ clearedBits (exponentField bits) := by
  have hlt (k : Nat) : bits.toNat / 2 ^ k * 2 ^ k < UInt64.size :=
    Nat.lt_of_le_of_lt (Nat.div_mul_le_self ..) bits.toNat_lt
  by_cases hsmall : exponentField bits < 1023
  · simp only [truncateBits, clearedBits, hsmall, if_true]
    exact UInt64.toNat_ofNat_of_lt' (hlt 63)
  · simp only [truncateBits, clearedBits, fractionalBits, hsmall, if_false]
    exact UInt64.toNat_ofNat_of_lt' (hlt _)

/-- The exponent of what is truncated stays, or is that of zero. -/
theorem exponentField_truncateBits (bits : UInt64) : exponentField (truncateBits bits) =
    if exponentField bits < 1023 then 0 else exponentField bits := by
  unfold exponentField
  rw [toNat_truncateBits]
  split
  next hsmall =>
    have hcleared : clearedBits (exponentField bits) = 63 := if_pos hsmall
    rw [hcleared]
    change bits.toNat / 2 ^ 63 * 2 ^ 63 / 2 ^ 52 % 2 ^ 11 = 0
    omega
  next hlarge =>
    have hcleared : clearedBits (exponentField bits) = 1075 - exponentField bits := if_neg hlarge
    -- the exponent is above all bits that are cleared
    have hk : 1075 - exponentField bits ≤ 52 := by
      unfold exponentField
      omega
    rw [hcleared]
    generalize 1075 - exponentField bits = k at hk
    have hsplit : Nat.pow 2 52 = 2 ^ k * 2 ^ (52 - k) := by
      rw [← Nat.pow_add, Nat.add_sub_cancel' hk]
    rw [hsplit, ← Nat.div_div_eq_div_mul, Nat.mul_div_cancel _ (Nat.two_pow_pos k),
      Nat.div_div_eq_div_mul]

theorem truncateBits_truncateBits (bits : UInt64) :
    truncateBits (truncateBits bits) = truncateBits bits := by
  have hcleared : clearedBits (exponentField (truncateBits bits)) =
      clearedBits (exponentField bits) := by
    rw [exponentField_truncateBits]
    split
    next hsmall => exact (if_pos (by decide)).trans (if_pos hsmall).symm
    next => rfl
  apply UInt64.toNat_inj.1
  rw [toNat_truncateBits, hcleared, toNat_truncateBits, Nat.mul_div_cancel _ (Nat.two_pow_pos _)]

/-- What is truncated is whole unless it is infinite or no number. -/
theorem isWhole_truncate (x : Float) : isWhole (truncate x) = x.isFinite := by
  unfold truncate
  split
  next hfinite =>
    have hexponent : exponentField (truncateBits x.toBits) ≠ 2047 := by
      have hold := isFinite_iff.1 hfinite
      rw [exponentField_truncateBits]
      split <;> omega
    have hbits := toBits_ofBits hexponent
    have hstill := (isFinite_ofBits _).2 hexponent
    simp [isWhole, hstill, hbits, truncateBits_truncateBits, hfinite]
  next hfinite => simp [isWhole, hfinite]

/-- Whether a magnitude is an integer. -/
def Magnitude.IsWhole (m : Magnitude) : Prop := ∃ n : Nat, (m.significand : ℚ) * 2 ^ m.exponent = n

theorem Magnitude.isWhole_iff {m : Magnitude} :
    m.IsWhole ↔ 2 ^ (-m.exponent).toNat ∣ m.significand := by
  obtain ⟨significand, exponent⟩ := m
  unfold IsWhole
  rcases Int.le_total 0 exponent with hpos | hneg
  · lift exponent to Nat using hpos
    refine iff_of_true ⟨significand * 2 ^ exponent, by push_cast; simp⟩ ?_
    simp
  · obtain ⟨k, rfl⟩ : ∃ k : Nat, exponent = -k := ⟨(-exponent).toNat, by omega⟩
    simp only [neg_neg, Int.toNat_natCast, zpow_neg, zpow_natCast]
    constructor
    · rintro ⟨n, hn⟩
      have hmul : (significand : ℚ) = 2 ^ k * n := by
        rw [← hn, mul_comm, inv_mul_cancel_right₀ (by positivity)]
      exact ⟨n, by exact_mod_cast hmul⟩
    · rintro ⟨n, rfl⟩
      refine ⟨n, ?_⟩
      push_cast
      rw [mul_comm, inv_mul_cancel_left₀ (by positivity)]

theorem isWhole_iff_dvd {x : Float} : isWhole x = true ↔
    x.isFinite = true ∧ 2 ^ clearedBits (exponentField x.toBits) ∣ x.toBits.toNat := by
  rw [isWhole, Bool.and_eq_true, beq_iff_eq, ← UInt64.toNat_inj, toNat_truncateBits,
    Nat.dvd_iff_div_mul_eq, eq_comm (a := x.toBits.toNat)]

/-- A double is whole just if it is finite and stands for an integer. -/
theorem isWhole_iff {x : Float} : isWhole x = true ↔ x.isFinite = true ∧ (decode x).IsWhole := by
  rw [isWhole_iff_dvd, Magnitude.isWhole_iff]
  refine and_congr_right fun _ => ?_
  unfold decode
  dsimp only
  generalize x.toBits = bits
  have hbelow (k : Nat) {n : Nat} (hk : 53 ≤ k) (hn : n < 2 ^ 53) : 2 ^ k ∣ n ↔ n = 0 :=
    ⟨fun h => Nat.eq_zero_of_dvd_of_lt h (hn.trans_le (Nat.pow_le_pow_right Nat.two_pos hk)),
      fun h => h ▸ dvd_zero _⟩
  have hfraction : fractionField bits = bits.toNat % 2 ^ 52 := rfl
  have hexponent : exponentField bits = bits.toNat / 2 ^ 52 % 2 ^ 11 := rfl
  have htop : Nat.pow 2 52 = 2 ^ 52 := rfl
  by_cases hsmall : exponentField bits < 1023
  · -- below one only zero is an integer
    have hcleared : clearedBits (exponentField bits) = 63 := if_pos hsmall
    rw [hcleared]
    by_cases hzero : exponentField bits = 0
    · rw [if_pos (by simpa using hzero)]
      dsimp only
      rw [hbelow (- -1074 : Int).toNat (by decide) (by omega)]
      omega
    · rw [if_neg (by simpa using hzero)]
      dsimp only
      rw [hbelow (-((exponentField bits : Int) - 1075)).toNat (by omega) (by omega)]
      omega
  · have hcleared : clearedBits (exponentField bits) = 1075 - exponentField bits := if_neg hsmall
    rw [hcleared, if_neg (by simp only [beq_iff_eq]; omega)]
    have hk : (-((exponentField bits : Int) - 1075)).toNat = 1075 - exponentField bits := by omega
    dsimp only
    rw [hk]
    have hle : 1075 - exponentField bits ≤ 52 := by omega
    have hdvd : 2 ^ (1075 - exponentField bits) ∣ 2 ^ 52 := pow_dvd_pow 2 hle
    rw [htop, Nat.dvd_add_right hdvd, hfraction, Nat.dvd_mod_iff hdvd]

/-! ## Rounding -/

theorem roundQuotient_bounds (num den : Nat) :
    num / den ≤ roundQuotient num den ∧ roundQuotient num den ≤ num / den + 1 := by
  unfold roundQuotient
  dsimp only
  split <;> omega

/-- What is below 2^53 is rounded up to it from half a unit below on, since the even neighbour of
2^53 - 1/2 is 2^53. -/
theorem roundQuotient_top (ha : 0 < a) (hn : n < 2 ^ 54 * a) :
    2 ^ 53 ≤ roundQuotient n (2 * a) ↔ 2 ^ 54 * a - a ≤ n := by
  have hdivide := Nat.div_add_mod n (2 * a)
  have hrest : n % (2 * a) < 2 * a := Nat.mod_lt n (by omega)
  have hbelow : n / (2 * a) < 2 ^ 53 := by
    rw [Nat.div_lt_iff_lt_mul (by omega)]
    omega
  by_cases htop : n / (2 * a) = 2 ^ 53 - 1
  · rw [htop] at hdivide
    simp only [roundQuotient, htop]
    generalize n % (2 * a) = rest at hdivide hrest
    by_cases hhalf : 2 * rest < 2 * a
    · simp [hhalf]
      omega
    · simp [hhalf]
      omega
  · have hround := (roundQuotient_bounds n (2 * a)).2
    have hless : 2 * a * (n / (2 * a)) ≤ 2 * a * (2 ^ 53 - 2) := Nat.mul_le_mul_left _ (by omega)
    omega

theorem scaleQuotient_natCast (n k : Nat) : scaleQuotient n 1 k = (n, 2 ^ k) := by
  simp [scaleQuotient]

/-- A natural that is cut `j` bits below its highest has `j + 1` bits. -/
theorem scaleQuotient_bounds (hn : n ≠ 0) (j : Nat) :
    2 ^ j ≤ (scaleQuotient n 1 (n.log2 - j)).1 / (scaleQuotient n 1 (n.log2 - j)).2 ∧
    (scaleQuotient n 1 (n.log2 - j)).1 / (scaleQuotient n 1 (n.log2 - j)).2 < 2 ^ (j + 1) := by
  have hlow := Nat.log2_self_le hn
  have hhigh := Nat.lt_log2_self (n := n)
  generalize n.log2 = log at hlow hhigh
  rcases Nat.le_total j log with hle | hle
  · have hplace : (log : Int) - j = (log - j : Nat) := by omega
    have hbits : j + (log - j) = log := Nat.add_sub_cancel' hle
    rw [hplace, scaleQuotient_natCast, Nat.le_div_iff_mul_le (Nat.two_pow_pos _),
      Nat.div_lt_iff_lt_mul (Nat.two_pow_pos _), ← Nat.pow_add, ← Nat.pow_add, Nat.add_right_comm,
      hbits]
    exact ⟨hlow, hhigh⟩
  · have hup : (-((log : Int) - j)).toNat = j - log := by omega
    have hdown : ((log : Int) - j).toNat = 0 := by omega
    have hbits : log + (j - log) = j := Nat.add_sub_cancel' hle
    simp only [scaleQuotient, hup, hdown]
    change 2 ^ j ≤ n * 2 ^ (j - log) / (1 * 1) ∧ n * 2 ^ (j - log) / (1 * 1) < 2 ^ (j + 1)
    rw [Nat.mul_one, Nat.div_one]
    constructor
    · calc 2 ^ j = 2 ^ log * 2 ^ (j - log) := by rw [← Nat.pow_add, hbits]
        _ ≤ n * 2 ^ (j - log) := Nat.mul_le_mul_right _ hlow
    · calc n * 2 ^ (j - log) < 2 ^ (log + 1) * 2 ^ (j - log) :=
          Nat.mul_lt_mul_of_pos_right hhigh (Nat.two_pow_pos _)
        _ = 2 ^ (j + 1) := by rw [← Nat.pow_add, Nat.add_right_comm, hbits]

/-- A natural is cut so that 53 bits are left. -/
theorem lastPlace_eq (hn : n ≠ 0) : lastPlace n 1 = n.log2 - (52 : Nat) := by
  have hlow : max ((n.log2 : Int) - (1 : Nat).log2 - 53) (-1074) = n.log2 - (53 : Nat) := by
    have hone : (1 : Nat).log2 = 0 := rfl
    omega
  have hwide := (scaleQuotient_bounds hn 53).1
  unfold lastPlace
  rw [hlow]
  dsimp only
  rw [if_neg (show ¬_ < Nat.pow 2 53 from Nat.not_lt.2 hwide)]
  omega

theorem isFinite_ofBits_min (total : Nat) :
    (Float.ofBits (UInt64.ofNat (min total infinityBits))).isFinite = true ↔
      total < 2047 * 2 ^ 52 := by
  have hinfinity : infinityBits = 2047 * 2 ^ 52 := rfl
  have hsize : UInt64.size = 2 ^ 64 := rfl
  have hsmall : min total infinityBits < UInt64.size := by omega
  rw [isFinite_ofBits, exponentField, UInt64.toNat_ofNat_of_lt' hsmall, hinfinity]
  change min total (2047 * 2 ^ 52) / 2 ^ 52 % 2 ^ 11 ≠ 2047 ↔ _
  omega

theorem isFinite_ofQuotient (hn : n ≠ 0) :
    (ofQuotient n 1).isFinite = true ↔ n < 2 ^ 1024 - 2 ^ 970 := by
  have hbounds := scaleQuotient_bounds hn 52
  have hround := roundQuotient_bounds (scaleQuotient n 1 (n.log2 - (52 : Nat))).1
    (scaleQuotient n 1 (n.log2 - (52 : Nat))).2
  have hshift : ((n.log2 : Int) - (52 : Nat) + 1074).toNat = n.log2 + 1022 := by omega
  unfold ofQuotient
  rw [if_neg (by simpa using hn), lastPlace_eq hn]
  dsimp only
  rw [isFinite_ofBits_min, hshift]
  change (n.log2 + 1022) * 2 ^ 52 + _ < _ ↔ _
  have hlow : 2 ^ n.log2 ≤ n := Nat.log2_self_le hn
  have hhigh : n < 2 ^ (n.log2 + 1) := Nat.lt_log2_self
  have hlast : 2 ^ 1023 = 2 ^ 53 * 2 ^ 970 := by rw [← Nat.pow_add]
  have hbeyond : 2 ^ 1024 = 2 ^ 54 * 2 ^ 970 := by rw [← Nat.pow_add]
  have hpos : 0 < 2 ^ 970 := pow_pos Nat.two_pos 970
  rcases Nat.lt_trichotomy n.log2 1023 with hlt | heq | hgt
  · have hless : n < 2 ^ 1023 := hhigh.trans_le (pow_le_pow_right₀ (by decide) hlt)
    rw [hlast] at hless
    rw [hbeyond]
    omega
  · have hless : n < 2 ^ 54 * 2 ^ 970 := by
      rw [← hbeyond]
      exact hhigh.trans_le (pow_le_pow_right₀ (by decide) (by omega))
    have hplace : (n.log2 : Int) - (52 : Nat) = (970 + 1 : Nat) := by omega
    have hscaled : scaleQuotient n 1 (n.log2 - (52 : Nat)) = (n, 2 * 2 ^ 970) := by
      rw [hplace, scaleQuotient_natCast, pow_succ']
    have htop := roundQuotient_top hpos hless
    rw [hscaled, hbeyond, heq]
    dsimp only
    omega
  · have hmore : 2 ^ 1024 ≤ n := by
      refine le_trans (pow_le_pow_right₀ (by decide) ?_) hlow
      omega
    omega

/-- A number of many digits is large. -/
theorem le_of_many_digits {i j : Nat} (hpos : 0 < i * j)
    (hdigits : i * j < (Nat.toDigits 10 n).length) : (10 ^ i) ^ j ≤ n := by
  rw [← Nat.pow_mul, ← Nat.not_lt, ← Nat.length_toDigits_le_iff (by decide) hpos]
  omega

/-- A natural is read as a finite double if it is below half a unit above the largest of them. -/
theorem isFinite_nearest (n : Nat) : (nearest n 0).isFinite = true ↔ n < 2 ^ 1024 - 2 ^ 970 := by
  unfold nearest
  by_cases hn : n = 0
  · subst hn
    exact iff_of_true (by decide) (by omega)
  rw [if_neg (by simpa using hn)]
  dsimp only
  by_cases hmany : 400 < (Nat.toDigits 10 n).length
  · have hlarge : 2 ^ 1024 ≤ n :=
      calc 2 ^ 1024 = (2 ^ 64) ^ 16 := by rw [← pow_mul]
        _ ≤ (10 ^ 25) ^ 16 := Nat.pow_le_pow_left (by decide) 16
        _ ≤ n := le_of_many_digits (i := 25) (j := 16) (by decide) hmany
    rw [if_pos (by omega)]
    exact iff_of_false (by decide) (by omega)
  · rw [if_neg (by omega), if_neg (by omega), ← isFinite_ofQuotient hn]
    simp

/-! ## Texts of integers -/

theorem ne_of_isDigit {c d : Char} (hc : isDigit c = true) (hd : isDigit d = false) : c ≠ d := by
  rintro rfl
  simp [hc] at hd

theorem not_exponent_of_isDigit {c : Char} (hc : isDigit c = true) : (c == 'e' || c == 'E') = false := by
  simp [ne_of_isDigit hc (by decide : isDigit 'e' = false),
    ne_of_isDigit hc (by decide : isDigit 'E' = false)]

theorem cutAt_of_forall {p : Char → Bool} (h : ∀ c ∈ cs, p c = false) : cutAt p cs = (cs, none) := by
  have hnil : cs.dropWhile (!p ·) = [] := List.dropWhile_eq_nil_iff.2 fun c hc => by simp [h c hc]
  rw [cutAt, hnil]

theorem mem_unsigned_of_mem {c : Char} (h : c ∈ cs) : c = '+' ∨ c = '-' ∨ c ∈ unsigned cs := by
  unfold unsigned
  split
  · exact (List.mem_cons.1 h).imp_right .inr
  · exact .inr (List.mem_cons.1 h)
  · exact .inr (.inr h)

/-- A text of the grammar of integers stands for its digits, with its sign. -/
theorem ofDecimalText_of_isInteger (h : isInteger cs = true) :
    ofDecimalText cs = if cs.head? == some '-' then -nearest (ofDigits (unsigned cs)) 0
      else nearest (ofDigits (unsigned cs)) 0 := by
  have hdigits : ∀ c ∈ unsigned cs, isDigit c = true :=
    List.all_eq_true.1 (Bool.and_eq_true_iff.1 h).2
  have hexponent : ∀ c ∈ cs, (c == 'e' || c == 'E') = false := by
    intro c hc
    rcases mem_unsigned_of_mem hc with rfl | rfl | hc
    · decide
    · decide
    · exact not_exponent_of_isDigit (hdigits c hc)
  have hpoint : ∀ c ∈ unsigned cs, (c == '.') = false := fun c hc => by
    simp [ne_of_isDigit (hdigits c hc) (by decide : isDigit '.' = false)]
  simp [ofDecimalText, cutAt_of_forall hexponent, cutAt_of_forall hpoint]

/-- Just the texts of the grammar of integers with digits below that bound are read as finite
doubles. -/
theorem isFinite_ofDecimalText (h : isInteger cs = true) :
    (ofDecimalText cs).isFinite = true ↔ ofDigits (unsigned cs) < 2 ^ 1024 - 2 ^ 970 := by
  rw [ofDecimalText_of_isInteger h]
  split
  · rw [isFinite_neg, isFinite_nearest]
  · rw [isFinite_nearest]

end Grove.Number

/-
The texts of numbers. The text of a finite number is of the grammar of decimals (`text_decimal`):
an integer below 10^18 is written as its digits with its sign, and any other number as the digits of
its shortest decimal, with a point among them or zeros around them.

That there are digits to write has to be shown: the zeros at the end are left out, and a decimal of
zeros alone would leave nothing. But zero reads back to no magnitude but zero
(`digits_ne_zero_of_readsBack`), and a number with that magnitude is written before the shortest
decimal is asked for (`significand_decode_ne_zero`).

NaN is written with the name it is read by, but an infinite number with one that is not in the grammar
of doubles, so that the texts of that grammar are those of the other numbers (`text_double_iff`).
-/
import Grove.Proofs.Number.Grammar
import Grove.Number.Layout

namespace Grove.Number

open Float.Model Float.Model.UnpackedFloat

variable {x : Float} {digits : List Char} {e : Int} {n : Nat}

/-! ## Kinds of numbers -/

theorem isFinite_eq_not (x : Float) : x.isFinite = (!x.isNaN && !x.isInf) := by
  change UnpackedFloat.isFinite _ = (!UnpackedFloat.isNaN _ && !UnpackedFloat.isInf _)
  cases x.toModel.unpack <;> rfl

theorem isNaN_of_isInf (h : x.isInf = true) : x.isNaN = false := by
  change UnpackedFloat.isInf _ = true at h
  change UnpackedFloat.isNaN _ = false
  cases hx : x.toModel.unpack with
  | infinity s => rfl
  | notANumber => simp [hx, UnpackedFloat.isInf] at h
  | zero s => rfl
  | finite s m e hm => rfl

theorem toNat_unpackMantissa (bits : UInt64) :
    (@unpackMantissa .binary64 bits.toBitVec).toNat = fractionField bits := by
  rw [unpackMantissa_def, BitVec.extractLsb'_toNat, Nat.shiftRight_zero]
  rfl

/-- Without a bit in the exponent and the fraction there is nothing but a sign. -/
theorem beq_zero (hexponent : exponentField x.toBits = 0) (hfraction : fractionField x.toBits = 0) :
    (x == 0.0) = true := by
  have hexponent : @unpackExponent .binary64 x.toBits.toBitVec = 0#11 :=
    BitVec.toNat_inj.1 ((toNat_unpackExponent _).trans hexponent)
  have hfraction : @unpackMantissa .binary64 x.toBits.toBitVec = 0#52 :=
    BitVec.toNat_inj.1 ((toNat_unpackMantissa _).trans hfraction)
  obtain ⟨s, hzero⟩ : ∃ s, UnpackedFloat.unpack .binary64 x.toBits.toBitVec = .zero s := by
    refine ⟨Sign.ofBitVec (@unpackSign .binary64 x.toBits.toBitVec), ?_⟩
    simp only [UnpackedFloat.unpack, hexponent, hfraction]
    rfl
  change UnpackedFloat.beq (UnpackedFloat.unpack .binary64 x.toBits.toBitVec) (.zero .positive) = true
  rw [hzero]
  rfl

theorem significand_decode_ne_zero (h : (x == 0.0) = false) : (decode x).significand ≠ 0 := by
  intro hzero
  simp only [decode] at hzero
  split at hzero
  next hexponent => simp [beq_zero (by simpa using hexponent) hzero] at h
  next => simp at hzero

/-! ## The shortest decimal -/

theorem compareScaled_zero {b : Nat} (hb : b ≠ 0) (i j : Int) : compareScaled 0 i b j = .lt := by
  rw [compareScaled, Nat.zero_mul, Nat.zero_mul, Nat.compare_eq_lt]
  exact Nat.mul_pos (Nat.mul_pos (Nat.pos_of_ne_zero hb) (Nat.pow_pos Nat.two_pos))
    (Nat.pow_pos (by decide))

/-- Zero is below the midpoint to the lower neighbour of a magnitude that is not zero. -/
theorem digits_ne_zero_of_readsBack {m : Magnitude} {d : Decimal} (hm : m.significand ≠ 0)
    (h : m.readsBack d = true) : d.digits ≠ 0 := by
  intro hd
  have hlow : (if m.narrowBelow then 4 * m.significand - 1 else 4 * m.significand - 2) ≠ 0 := by
    split <;> omega
  simp [Magnitude.readsBack, hd, compareScaled_zero hlow] at h

theorem readsBack_of_onGrid {m : Magnitude} {d : Decimal} (h : m.onGrid e = some d) :
    m.readsBack d = true := by
  unfold Magnitude.onGrid at h
  dsimp only at h
  split at h
  next hbelow habove => split at h <;> obtain rfl := Option.some_inj.1 h <;> assumption
  next hbelow _ => exact Option.some_inj.1 h ▸ hbelow
  next _ habove => exact Option.some_inj.1 h ▸ habove
  next => cases h

theorem digits_ne_zero_of_firstOnGrids {m : Magnitude} {d : Decimal} (hm : m.significand ≠ 0)
    (h : m.firstOnGrids e n = some d) : d.digits ≠ 0 := by
  induction n generalizing e with
  | zero => cases h
  | succ n ih =>
    simp only [Magnitude.firstOnGrids] at h
    split at h
    next hgrid =>
      obtain rfl := Option.some_inj.1 h
      exact digits_ne_zero_of_readsBack hm (readsBack_of_onGrid hgrid)
    next => exact ih h

theorem digits_shortest_ne_zero {m : Magnitude} (hm : m.significand ≠ 0) : m.shortest.digits ≠ 0 := by
  unfold Magnitude.shortest
  cases hfirst : m.firstOnGrids (m.scale - 1) 17 with
  | some d => exact digits_ne_zero_of_firstOnGrids hm hfirst
  | none =>
    rw [Option.getD_none, Magnitude.exact]
    split
    · exact Nat.mul_ne_zero hm (pow_ne_zero _ (by decide))
    · exact Nat.mul_ne_zero hm (pow_ne_zero _ (by decide))

/-! ## Digits -/

theorem isDigit_of_mem_toDigits {c : Char} (h : c ∈ Nat.toDigits 10 n) : isDigit c = true :=
  Nat.isDigit_of_mem_toDigits (by decide) (by decide) h

theorem isDigits_toDigits (n : Nat) : isDigits (Nat.toDigits 10 n) = true :=
  isDigits_iff.2 ⟨Nat.toDigits_ne_nil, fun _ => isDigit_of_mem_toDigits⟩

theorem isDigits_stripZeros (hn : n ≠ 0) (e : Int) :
    isDigits (stripZeros (Nat.toDigits 10 n) e).1 = true := by
  refine isDigits_iff.2 ⟨fun hnil => hn ?_, fun c hc => ?_⟩
  · -- if nothing is left, all digits are zeros
    have hzeros : ∀ c ∈ Nat.toDigits 10 n, c = '0' := by
      simpa [stripZeros] using hnil
    have hreplicate := List.eq_replicate_of_mem hzeros
    calc n = Nat.ofDigitChars 10 (Nat.toDigits 10 n) 0 := Nat.ofDigitChars_ten_toDigits.symm
      _ = 0 := by rw [hreplicate, Nat.ofDigitChars_replicate_zero, Nat.mul_zero]
  · have hkept : c ∈ (Nat.toDigits 10 n).reverse :=
      (List.dropWhile_sublist _).subset (List.mem_reverse.1 hc)
    exact isDigit_of_mem_toDigits (List.mem_reverse.1 hkept)

/-! ## Texts -/

theorem positionalText_unsignedDecimal (h : isDigits digits = true) (e : Int) :
    (positionalText "" digits e).toList ∈ Grammar.unsignedDecimal.matches' := by
  obtain ⟨hsome, hdigits⟩ := isDigits_iff.1 h
  have hzeros (k : Nat) : ∀ c ∈ List.replicate k '0', isDigit c = true := fun c hc => by
    rw [List.eq_of_mem_replicate hc]
    rfl
  unfold positionalText
  dsimp only
  split
  next =>
    rw [String.append_empty, String.toList_ofList]
    refine Grammar.unsignedDecimal_of_digits (isDigits_iff.2 ⟨by simp [hsome], ?_⟩)
    exact List.forall_mem_append.2 ⟨hdigits, hzeros _⟩
  next =>
    split
    next hpoint =>
      rw [String.toList_ofList]
      refine Grammar.mem_unsignedDecimal.2 (.inr ⟨_, _, rfl, .inl ?_, ?_, ?_⟩)
      · rw [ne_eq, List.take_eq_nil_iff, not_or]
        exact ⟨by omega, hsome⟩
      · exact fun c hc => hdigits c (List.mem_of_mem_take hc)
      · exact fun c hc => hdigits c (List.mem_of_mem_drop hc)
    next =>
      refine Grammar.mem_unsignedDecimal.2 (.inr
        ⟨['0'], List.replicate (-(digits.length + e)).toNat '0' ++ digits, ?_, .inl (by simp), hzeros 1,
          List.forall_mem_append.2 ⟨hzeros _, hdigits⟩⟩)
      simp only [String.toList_append, String.toList_ofList]
      rfl

theorem decimal_of_unsigned {cs : List Char} (h : cs ∈ Grammar.unsignedDecimal.matches') :
    cs ∈ Grammar.decimal.matches' ∧ '-' :: cs ∈ Grammar.decimal.matches' :=
  ⟨Grammar.mem_decimal_iff_unsigned.2 (by rwa [Grammar.unsigned_of_mem h]),
    Grammar.mem_decimal_iff_unsigned.2 h⟩

theorem repr_decimal (i : Int) : (Int.repr i).toList ∈ Grammar.decimal.matches' := by
  have hdigits (n : Nat) : n.repr.toList ∈ Grammar.unsignedDecimal.matches' := by
    rw [Nat.toList_repr]
    exact Grammar.unsignedDecimal_of_digits (isDigits_toDigits n)
  cases i with
  | ofNat n => exact (decimal_of_unsigned (hdigits n)).1
  | negSucc n =>
    rw [Int.repr, String.toList_append]
    exact (decimal_of_unsigned (hdigits (n + 1))).2

/-- The text of a finite number is a decimal. -/
theorem text_decimal (h : x.isFinite = true) : (text x).toList ∈ Grammar.decimal.matches' := by
  obtain ⟨hnumber, hbounded⟩ : x.isNaN = false ∧ x.isInf = false := by
    rw [isFinite_eq_not] at h
    simpa only [Bool.and_eq_true, Bool.not_eq_true'] using h
  unfold text
  split
  next => exact repr_decimal _
  next =>
    rw [Layout.write, if_neg (Bool.eq_false_iff.1 hnumber)]
    dsimp only
    rw [if_neg (Bool.eq_false_iff.1 hbounded)]
    split
    next => exact repr_decimal 0
    next hzero =>
      have hdigits := isDigits_stripZeros (digits_shortest_ne_zero
        (significand_decode_ne_zero (Bool.eq_false_iff.2 hzero))) (decode x).shortest.exponent
      generalize stripZeros _ _ = stripped at hdigits
      have hbody := decimal_of_unsigned (positionalText_unsignedDecimal hdigits stripped.2)
      rw [if_pos (show valueLayout.positional _ = true from rfl), String.toList_append]
      by_cases hneg : isNegative x = true
      · rw [if_pos hneg]
        exact hbody.2
      · rw [if_neg hneg]
        exact hbody.1

theorem text_of_isNaN (h : x.isNaN = true) : text x = "NaN" := by
  have hfinite : x.isFinite = false := by rw [isFinite_eq_not, h]; rfl
  rw [text, if_neg (by simp [isWhole, hfinite]), Layout.write, if_pos h]

theorem text_of_isInf (h : x.isInf = true) : text x = "Infinity" ∨ text x = "-Infinity" := by
  have hfinite : x.isFinite = false := by rw [isFinite_eq_not, h, Bool.not_true, Bool.and_false]
  rw [text, if_neg (by simp [isWhole, hfinite]), Layout.write,
    if_neg (Bool.eq_false_iff.1 (isNaN_of_isInf h))]
  dsimp only
  rw [if_pos h]
  split
  · exact .inr rfl
  · exact .inl rfl

/-- The text of a number is a double unless the number is infinite. -/
theorem text_double_iff : (text x).toList ∈ Grammar.double.matches' ↔ x.isInf = false := by
  by_cases hinf : x.isInf = true
  · refine iff_of_false ?_ (by simp [hinf])
    rw [Grammar.mem_double]
    rcases text_of_isInf hinf with htext | htext <;> rw [htext] <;> decide
  · refine iff_of_true ?_ (Bool.eq_false_iff.2 hinf)
    by_cases hnan : x.isNaN = true
    · rw [text_of_isNaN hnan, Grammar.mem_double]
      rfl
    · refine Grammar.decimal_le_double (text_decimal ?_)
      rw [isFinite_eq_not, Bool.eq_false_iff.2 hnan, Bool.eq_false_iff.2 hinf]
      rfl

/-! ## Blanks -/

theorem isBlank_of_mem_decimal {cs : List Char} (h : cs ∈ Grammar.decimal.matches') :
    ∀ c ∈ cs, Text.isBlank c = false := by
  intro c hc
  have hdigit (c : Char) (hc : isDigit c = true) : Text.isBlank c = false := by
    have hmem := isDigit_iff_mem.1 hc
    fin_cases hmem <;> rfl
  rcases mem_unsigned_of_mem hc with rfl | rfl | hc
  · decide
  · decide
  · rcases Grammar.digit_or_point (Grammar.mem_decimal_iff_unsigned.1 h) c hc with hc | rfl
    · exact hdigit c hc
    · decide

theorem trimChars_text (x : Float) : Text.trimChars (text x).toList = (text x).toList := by
  by_cases hfinite : x.isFinite = true
  · exact Text.trimChars_of_forall (isBlank_of_mem_decimal (text_decimal hfinite))
  · have hspelled : text x = "NaN" ∨ text x = "Infinity" ∨ text x = "-Infinity" := by
      rw [isFinite_eq_not, Bool.and_eq_true, Bool.not_eq_true', Bool.not_eq_true', not_and_or,
        Bool.not_eq_false, Bool.not_eq_false] at hfinite
      exact hfinite.imp text_of_isNaN text_of_isInf
    rcases hspelled with htext | htext | htext <;> rw [htext] <;> rfl

end Grove.Number

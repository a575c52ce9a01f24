/-
Integer division. A dividend that is finite and a divisor that is a number but not zero are divided,
and other numbers are refused: a zero divisor with one error, what is infinite or no number with
another (`Eval.integerQuotient_of_not_divides`).

The operands are tested, but not their quotient. It is an integer unless it exceeds the doubles
(`Number.QuotientExceeds`), as that of one by the least double does: then it is infinite, and what is
infinite is not accepted as an integer.
-/
import Grove.Proofs.Eval.Casting
import Grove.Proofs.Number.Quotient

namespace Grove

/-! ## Numbers -/

namespace Number

variable {a b : Float}

/-- The operands that are divided: the dividend is finite, and the divisor a number that is not zero. -/
structure Divides (a b : Float) : Prop where
  dividend : a.isFinite = true
  divisor : b.isNaN = false
  nonzero : (b == 0.0) = false

/-- Whether the exact quotient of two operands is so large that it is rounded to infinity. -/
def QuotientExceeds (a b : Float) : Prop :=
  b.isInf = false ∧ (2 ^ 1024 - 2 ^ 970) * size b ≤ size a

/-- These are the operands that pass the tests. -/
theorem divides_iff :
    Divides a b ↔ (b == 0.0) = false ∧ (a.isNaN || b.isNaN || a.isInf) = false := by
  have hkinds := isFinite_eq_not a
  constructor
  · rintro ⟨ha, hb, hzero⟩
    rw [ha, eq_comm, Bool.and_eq_true, Bool.not_eq_true', Bool.not_eq_true'] at hkinds
    exact ⟨hzero, by rw [hkinds.1, hb, hkinds.2]; rfl⟩
  · rintro ⟨hzero, hguard⟩
    rw [Bool.or_eq_false_iff, Bool.or_eq_false_iff] at hguard
    rw [hguard.1.1, hguard.2] at hkinds
    exact ⟨hkinds, hguard.1.2, hzero⟩

namespace Divides

theorem isFinite_div_iff (h : Divides a b) : (a / b).isFinite = true ↔ ¬QuotientExceeds a b := by
  rw [isFinite_div h.dividend h.divisor h.nonzero, QuotientExceeds, not_and, not_le]
  cases b.isInf <;> simp

/-- A quotient is cut to an integer unless it exceeds the doubles. -/
theorem isWhole_iff (h : Divides a b) : isWhole (truncate (a / b)) = true ↔ ¬QuotientExceeds a b := by
  rw [isWhole_truncate, h.isFinite_div_iff]

/-- A quotient that exceeds the doubles is infinite, and left so. -/
theorem isInf_of_exceeds (h : Divides a b) (hexceeds : QuotientExceeds a b) :
    (truncate (a / b)).isInf = true := by
  have hinfinite : (a / b).isFinite = false :=
    Bool.eq_false_iff.2 fun hfinite => h.isFinite_div_iff.1 hfinite hexceeds
  have hkept : truncate (a / b) = a / b := by simp [truncate, hinfinite]
  have hkinds := isFinite_eq_not (a / b)
  rw [hinfinite, isNaN_div h.dividend h.divisor h.nonzero] at hkinds
  rw [hkept]
  simpa using hkinds

end Divides

end Number

open Number (Divides QuotientExceeds)

/-! ## Results -/

namespace Eval

variable {a b n : Float}

theorem integerQuotient_of_divides (h : Divides a b) :
    integerQuotient a b = .ok (Number.truncate (a / b)) := by
  obtain ⟨hzero, hguard⟩ := Number.divides_iff.1 h
  rw [integerQuotient, hzero, hguard]
  rfl

/-- Operands that are not divided are reported, a zero divisor before all else. -/
theorem integerQuotient_of_not_divides (h : ¬Divides a b) : ∃ error,
    integerQuotient a b = .error error ∧
      error.code = if b == 0.0 then .FOAR0001 else .FOCA0002 := by
  unfold integerQuotient
  cases hzero : b == 0.0 with
  | true => exact ⟨_, rfl, rfl⟩
  | false =>
    cases hguard : a.isNaN || b.isNaN || a.isInf with
    | true => exact ⟨_, rfl, rfl⟩
    | false => exact absurd (Number.divides_iff.2 ⟨hzero, hguard⟩) h

/-- What has a quotient is divided to it. -/
theorem divides_of_integerQuotient (h : integerQuotient a b = .ok n) :
    Divides a b ∧ n = Number.truncate (a / b) := by
  by_cases hdivides : Divides a b
  · rw [integerQuotient_of_divides hdivides] at h
    exact ⟨hdivides, (Except.ok.inj h).symm⟩
  · obtain ⟨error, herror, -⟩ := integerQuotient_of_not_divides hdivides
    rw [herror] at h
    cases h

end Eval

/-! ## Expressions -/

namespace Expr

open Eval

variable {f : Forest} {c : Context} {e₁ e₂ : Expr} {a b n : Float}

/-- The integer division of two expressions. -/
def quotient (e₁ e₂ : Expr) : Expr := apply (.binary (.arithmetic .idiv)) [some e₁, some e₂]

/-- An expression that is treated as an integer. -/
def asInteger (e : Expr) : Expr := apply (.convert .treat (some (.atomic "integer" .one))) [some e]

/-- The numbers that two operands come to. -/
def Operands (f : Forest) (c : Context) (e₁ e₂ : Expr) (a b : Float) : Prop :=
  (optionalNumber e₁.evaluate "arithmetic" f c).1 = .ok (some a) ∧
  (optionalNumber e₂.evaluate "arithmetic" f c).1 = .ok (some b)

theorem evaluate_quotient (e₁ e₂ : Expr) :
    (quotient e₁ e₂).evaluate = arithmetic .idiv e₁.evaluate e₂.evaluate := rfl

theorem quotient_eq (h : Operands f c e₁ e₂ a b) :
    ((quotient e₁ e₂).evaluate f c).1 = (integerQuotient a b).map .number := by
  have hleft : optionalNumber e₁.evaluate "arithmetic" f c = (.ok (some a), c) :=
    Prod.ext h.1 ((e₁.neutral_evaluate.optionalNumber _).context_eq f c)
  have hright : optionalNumber e₂.evaluate "arithmetic" f c = (.ok (some b), c) :=
    Prod.ext h.2 ((e₂.neutral_evaluate.optionalNumber _).context_eq f c)
  rw [evaluate_quotient, arithmetic, bind_of_ok _ hleft, bind_of_ok _ hright]
  change ((ofExcept (integerQuotient a b) >>= fun n => pure (Value.number n)) f c).1 = _
  cases integerQuotient a b <;> rfl

/-- A quotient is one of numbers that the operands come to. -/
theorem operands_of_quotient (h : ((quotient e₁ e₂).evaluate f c).1 = .ok (.number n)) :
    ∃ a b, Operands f c e₁ e₂ a b ∧ Divides a b ∧ n = Number.truncate (a / b) := by
  have hrest := h
  rw [evaluate_quotient, arithmetic] at hrest
  obtain ⟨a?, c₁, hleft, hrest⟩ := bind_eq_ok (Prod.ext hrest rfl)
  obtain rfl : c = c₁ :=
    ((e₁.neutral_evaluate.optionalNumber _).context_eq f c).symm.trans (congrArg Prod.snd hleft)
  obtain ⟨b?, c₂, hright, hrest⟩ := bind_eq_ok hrest
  obtain rfl : c = c₂ :=
    ((e₂.neutral_evaluate.optionalNumber _).context_eq f c).symm.trans (congrArg Prod.snd hright)
  match a?, b?, hrest with
  | none, _, hrest => cases congrArg Prod.fst hrest
  | some a, none, hrest => cases congrArg Prod.fst hrest
  | some a, some b, _ =>
    have hoperands : Operands f c e₁ e₂ a b := ⟨congrArg Prod.fst hleft, congrArg Prod.fst hright⟩
    refine ⟨a, b, hoperands, divides_of_integerQuotient ?_⟩
    rw [quotient_eq hoperands] at h
    cases hquotient : integerQuotient a b with
    | error error =>
      rw [hquotient] at h
      cases h
    | ok n' =>
      rw [hquotient] at h
      cases h
      rfl

theorem quotient_of_divides (h : Operands f c e₁ e₂ a b) (hdivides : Divides a b) :
    ((quotient e₁ e₂).evaluate f c).1 = .ok (.number (Number.truncate (a / b))) := by
  rw [quotient_eq h, integerQuotient_of_divides hdivides]
  rfl

/-- A number is left as it is when it is treated as an integer, if it is one. -/
theorem asInteger_eq {e : Expr} (he : (e.evaluate f c).1 = .ok (.number n)) :
    ((asInteger e).evaluate f c).1 =
      if Number.isWhole n then .ok (.number n)
      else .error ((SequenceType.atomic "integer" .one).mismatch
        ((Value.number n).typeName ++ " does not match " ++ (ItemType.atomic
          (.bound "xs" "integer" schemaNamespace)).render)) := by
  have hknown : AtomicType.ofQName? (.bound "xs" "integer" schemaNamespace) = some .integer := rfl
  have hone : Occurrence.one.allows 1 = true := rfl
  exact treat_single hknown hone he rfl

/-- What exceeds the doubles is refused as an integer. -/
theorem asInteger_of_exceeds (h : Operands f c e₁ e₂ a b) (hdivides : Divides a b)
    (hexceeds : QuotientExceeds a b) : ∃ error,
    ((asInteger (quotient e₁ e₂)).evaluate f c).1 = .error error ∧ error.code = .XPDY0050 := by
  rw [asInteger_eq (quotient_of_divides h hdivides),
    if_neg fun hwhole => hdivides.isWhole_iff.1 hwhole hexceeds]
  exact ⟨_, rfl, rfl⟩

/-- An integer division comes to a number just if both operands do and are divided. The number is an
integer, and accepted as one, unless the exact quotient exceeds the doubles: then it is infinite. All
other numbers are reported. -/
theorem quotient_integer_iff (e₁ e₂ : Expr) (f : Forest) (c : Context) :
    (∀ n, ((quotient e₁ e₂).evaluate f c).1 = .ok (.number n) →
      ∃ a b, Operands f c e₁ e₂ a b ∧ Divides a b ∧ n = Number.truncate (a / b)) ∧
    ∀ a b, Operands f c e₁ e₂ a b →
      (Divides a b → ∃ n, ((quotient e₁ e₂).evaluate f c).1 = .ok (.number n) ∧
        (n.isFinite = true ∧ (Number.decode n).IsWhole ↔ ¬QuotientExceeds a b) ∧
        (((asInteger (quotient e₁ e₂)).evaluate f c).1 = .ok (.number n) ↔ ¬QuotientExceeds a b) ∧
        (QuotientExceeds a b → n.isInf = true ∧ ∃ error,
          ((asInteger (quotient e₁ e₂)).evaluate f c).1 = .error error ∧ error.code = .XPDY0050)) ∧
      (¬Divides a b → ∃ error, ((quotient e₁ e₂).evaluate f c).1 = .error error ∧
        error.code = if b == 0.0 then .FOAR0001 else .FOCA0002) := by
  refine ⟨fun n => operands_of_quotient, fun a b h => ⟨fun hdivides => ?_, fun hnot => ?_⟩⟩
  · have hquotient := quotient_of_divides h hdivides
    refine ⟨_, hquotient, ?_, ?_, fun hexceeds =>
      ⟨hdivides.isInf_of_exceeds hexceeds, asInteger_of_exceeds h hdivides hexceeds⟩⟩
    · rw [← Number.isWhole_iff]
      exact hdivides.isWhole_iff
    · rw [asInteger_eq hquotient, ← hdivides.isWhole_iff]
      simp
  · obtain ⟨error, herror, hcode⟩ := integerQuotient_of_not_divides hnot
    refine ⟨error, ?_, hcode⟩
    rw [quotient_eq h, herror]
    rfl

/-- Seven halves are cut to an integer. -/
theorem quotient_integer_iff_seven_halves :
    ∃ n, ((quotient (integer 7) (integer 2)).evaluate default {}).1 = .ok (.number n) ∧
      (n.isFinite = true ∧ (Number.decode n).IsWhole) ∧
      ((asInteger (quotient (integer 7) (integer 2))).evaluate default {}).1 = .ok (.number n) := by
  have hoperands : Operands default {} (integer 7) (integer 2) (.ofInt 7) (.ofInt 2) := ⟨rfl, rfl⟩
  have hdivides : Divides (.ofInt 7) (.ofInt 2) :=
    ⟨by decide +kernel, by decide +kernel, by decide +kernel⟩
  have hfits : ¬QuotientExceeds (.ofInt 7) (.ofInt 2) := by
    have hseven : Number.decode (.ofInt 7) = ⟨7 * 2 ^ 50, -50⟩ := by decide +kernel
    have htwo : Number.decode (.ofInt 2) = ⟨2 ^ 52, -51⟩ := by decide +kernel
    rintro ⟨-, hlarge⟩
    rw [Number.size, Number.size, hseven, htwo, Number.limit_eq] at hlarge
    have hunit : (1 : ℚ) ≤ 2 ^ (970 : Int) := one_le_zpow₀ one_le_two (by decide)
    generalize (2 : ℚ) ^ (970 : Int) = unit at hunit hlarge
    norm_num at hlarge
    linarith
  obtain ⟨n, hquotient, hwhole, htreat, -⟩ :=
    ((quotient_integer_iff (integer 7) (integer 2) default {}).2 _ _ hoperands).1 hdivides
  exact ⟨n, hquotient, hwhole.2 hfits, htreat.2 hfits⟩

/-- One is not refused to be divided by the least double, and the quotient is no integer. -/
theorem quotient_by_least :
    ∃ n error, ((quotient (integer 1) (double (.ofBits 1))).evaluate default {}).1 = .ok (.number n) ∧
      n.isInf = true ∧
      ((asInteger (quotient (integer 1) (double (.ofBits 1)))).evaluate default {}).1 = .error error ∧
      error.code = .XPDY0050 := by
  have hoperands : Operands default {} (integer 1) (double (.ofBits 1)) (.ofInt 1) (.ofBits 1) :=
    ⟨rfl, rfl⟩
  have hdivides : Divides (.ofInt 1) (.ofBits 1) :=
    ⟨by decide +kernel, by decide +kernel, by decide +kernel⟩
  have hexceeds : QuotientExceeds (.ofInt 1) (.ofBits 1) := by
    have hone : Number.decode (.ofInt 1) = ⟨2 ^ 52, -52⟩ := by decide +kernel
    have hleast : Number.decode (.ofBits 1) = ⟨1, -1074⟩ := by decide +kernel
    refine ⟨by decide +kernel, ?_⟩
    have hscale : (2 : ℚ) ^ (970 : Int) * 2 ^ (-1074 : Int) = 2 ^ (-104 : Int) := by
      rw [← zpow_add₀ two_ne_zero]
      rfl
    rw [Number.size, Number.size, hone, hleast, Number.limit_eq, Nat.cast_one, one_mul, mul_assoc,
      hscale]
    norm_num
  obtain ⟨error, herror, hcode⟩ := asInteger_of_exceeds hoperands hdivides hexceeds
  exact ⟨_, error, quotient_of_divides hoperands hdivides, hdivides.isInf_of_exceeds hexceeds, herror,
    hcode⟩

end Expr

end Grove

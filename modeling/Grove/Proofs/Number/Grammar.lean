/-
The grammars of numbers, as regular expressions over characters. The readers do not match them:
they take a sign off, cut what is left at the first point and at the first letter of an exponent, and
look at the characters of each part. They accept just the words of the grammars all the same
(`mem_integer`, `mem_decimal`, `mem_double`), since no digit is a sign, a point or such a letter, so
that a word can be cut in one way only.

The blanks around a text are taken off before it is read. What is left is the only part of the text
without a blank at its ends that has nothing but blanks around it (`isTrimmed_iff`).
-/
import Grove.Proofs.Number.Finite

namespace Grove

namespace Text

/-- What is left of a text without the blanks at its ends. -/
structure IsTrimmed (cs core : List Char) : Prop where
  around : ∃ before after, cs = before ++ core ++ after ∧
    (∀ c ∈ before, isBlank c = true) ∧ ∀ c ∈ after, isBlank c = true
  head : ∀ c ∈ core.head?, isBlank c = false
  last : ∀ c ∈ core.getLast?, isBlank c = false

variable {cs core : List Char}

theorem dropWhile_append_of_head {p : Char → Bool} {before rest : List Char}
    (hbefore : ∀ c ∈ before, p c = true) (hrest : ∀ c ∈ rest.head?, p c = false) :
    (before ++ rest).dropWhile p = rest := by
  rw [List.dropWhile_append_of_pos hbefore]
  cases rest with
  | nil => rfl
  | cons c rest => rw [List.dropWhile_cons_of_neg (by simp [hrest c rfl])]

theorem head?_dropWhile (p : Char → Bool) (cs : List Char) :
    ∀ c ∈ (cs.dropWhile p).head?, p c = false := by
  intro c hc
  have hnot := List.head?_dropWhile_not p cs
  rw [Option.mem_def.1 hc] at hnot
  simpa using hnot

theorem isTrimmed_trimChars (cs : List Char) : IsTrimmed cs (trimChars cs) := by
  have hfront : cs.takeWhile isBlank ++ cs.dropWhile isBlank = cs := List.takeWhile_append_dropWhile
  obtain ⟨after, hback, hafter⟩ :
      ∃ after, trimChars cs ++ after = cs.dropWhile isBlank ∧ ∀ c ∈ after, isBlank c = true := by
    refine ⟨((cs.dropWhile isBlank).reverse.takeWhile isBlank).reverse, ?_, fun c hc =>
      List.mem_takeWhile_imp (List.mem_reverse.1 hc)⟩
    rw [trimChars, ← List.reverse_append, List.takeWhile_append_dropWhile, List.reverse_reverse]
  refine ⟨⟨cs.takeWhile isBlank, after, ?_, fun c hc => List.mem_takeWhile_imp hc, hafter⟩,
    fun c hc => ?_, fun c hc => ?_⟩
  · rw [List.append_assoc, hback, hfront]
  · -- what begins the text without the blanks at its end begins it with them
    refine head?_dropWhile isBlank cs c ?_
    rw [← hback, List.head?_append, Option.mem_def.1 hc]
    rfl
  · rw [trimChars, List.getLast?_reverse] at hc
    exact head?_dropWhile isBlank _ c hc

theorem IsTrimmed.eq_trimChars (h : IsTrimmed cs core) : core = trimChars cs := by
  obtain ⟨⟨before, after, rfl, hbefore, hafter⟩, hhead, hlast⟩ := h
  rw [trimChars, List.append_assoc]
  cases core with
  | nil =>
    have hblank : ∀ c ∈ before ++ after, isBlank c = true :=
      List.forall_mem_append.2 ⟨hbefore, hafter⟩
    rw [List.nil_append, List.dropWhile_eq_nil_iff.2 hblank]
    rfl
  | cons c core =>
    rw [dropWhile_append_of_head hbefore (by simpa using hhead), List.reverse_append,
      dropWhile_append_of_head (by simpa using hafter) (by rwa [List.head?_reverse]),
      List.reverse_reverse]

theorem isTrimmed_iff : IsTrimmed cs core ↔ core = trimChars cs :=
  ⟨IsTrimmed.eq_trimChars, fun h => h ▸ isTrimmed_trimChars cs⟩

theorem trimChars_of_forall (h : ∀ c ∈ cs, isBlank c = false) : trimChars cs = cs := by
  have hself : IsTrimmed cs cs := ⟨⟨[], [], by simp, by simp, by simp⟩,
    fun c hc => h c (List.mem_of_mem_head? hc), fun c hc => h c (List.mem_of_getLast? hc)⟩
  exact hself.eq_trimChars.symm

end Text

namespace Number

open RegularExpression

variable {cs : List Char} {c : Char}

theorem isDigit_iff_mem :
    isDigit c = true ↔ c ∈ ['0', '1', '2', '3', '4', '5', '6', '7', '8', '9'] := by
  have hrange : isDigit c = true ↔ 48 ≤ c.toNat ∧ c.toNat ≤ 57 := by
    simp only [isDigit, Bool.and_eq_true, decide_eq_true_eq]
    rfl
  simp only [hrange, List.mem_cons, List.not_mem_nil, or_false, ← Char.toNat_inj, Char.reduceToNat]
  omega

theorem isDigits_iff : isDigits cs = true ↔ cs ≠ [] ∧ ∀ c ∈ cs, isDigit c = true := by
  simp [isDigits]

theorem cutAt_append {p : Char → Bool} {front back : List Char} (hfront : ∀ c ∈ front, p c = false)
    (hc : p c = true) : cutAt p (front ++ c :: back) = (front, some back) := by
  have hdrop : (front ++ c :: back).dropWhile (!p ·) = c :: back :=
    Text.dropWhile_append_of_head (fun d hd => by simp [hfront d hd]) (by simp [hc])
  have htake : (front ++ c :: back).takeWhile (!p ·) = front := by
    rw [List.takeWhile_append_of_pos fun d hd => by simp [hfront d hd],
      List.takeWhile_cons_of_neg (by simp [hc]), List.append_nil]
  simp only [cutAt, hdrop, htake]

/-- A text is cut at the first of the characters, if it has one. -/
theorem cutAt_cases (p : Char → Bool) (cs : List Char) :
    ((∀ c ∈ cs, p c = false) ∧ cutAt p cs = (cs, none)) ∨
      ∃ front c back, cs = front ++ c :: back ∧ (∀ d ∈ front, p d = false) ∧ p c = true ∧
        cutAt p cs = (front, some back) := by
  by_cases h : ∀ c ∈ cs, p c = false
  · exact .inl ⟨h, cutAt_of_forall h⟩
  · right
    obtain ⟨c, hc⟩ : ∃ c, cs.find? p = some c :=
      Option.isSome_iff_exists.1 (List.find?_isSome.2 (by simpa using h))
    obtain ⟨hp, front, back, rfl, hfront⟩ := List.find?_eq_some_iff_append.1 hc
    have hfront : ∀ d ∈ front, p d = false := fun d hd => by simpa using hfront d hd
    exact ⟨front, c, back, rfl, hfront, hp, cutAt_append hfront hp⟩

/-! ## The grammars -/

namespace Grammar

/-- One of some characters. -/
def oneOf (cs : List Char) : RegularExpression Char := (cs.map char).sum

/-- A word. -/
def word (cs : List Char) : RegularExpression Char := (cs.map char).prod

def digit : RegularExpression Char := oneOf ['0', '1', '2', '3', '4', '5', '6', '7', '8', '9']

/-- One digit or more. -/
def digits : RegularExpression Char := digit * digit.star

/-- A sign or none. -/
def sign : RegularExpression Char := 1 + oneOf ['+', '-']

def integer : RegularExpression Char := sign * digits

/-- Digits and perhaps a point, with digits after it or none, or a point and digits. -/
def unsignedDecimal : RegularExpression Char :=
  digits * (1 + char '.' * digit.star) + char '.' * digits

def decimal : RegularExpression Char := sign * unsignedDecimal

def exponent : RegularExpression Char := oneOf ['e', 'E'] * integer

/-- A decimal with an exponent or none, or a name of what is not finite. -/
def double : RegularExpression Char :=
  word ['I', 'N', 'F'] + word ['+', 'I', 'N', 'F'] + word ['-', 'I', 'N', 'F'] + word ['N', 'a', 'N'] +
    decimal * (1 + exponent)

theorem mem_oneOf {choices : List Char} : cs ∈ (oneOf choices).matches' ↔ ∃ c ∈ choices, cs = [c] := by
  induction choices with
  | nil => simp [oneOf, Language.notMem_zero]
  | cons d choices ih =>
    have hsplit : cs ∈ (oneOf (d :: choices)).matches' ↔ cs = [d] ∨ cs ∈ (oneOf choices).matches' := by
      rw [oneOf, List.map_cons, List.sum_cons, matches'_add, Language.mem_add, matches'_char]
      rfl
    rw [hsplit, ih]
    simp

theorem mem_char_mul {d : Char} {r : RegularExpression Char} :
    cs ∈ (char d * r).matches' ↔ ∃ rest ∈ r.matches', cs = d :: rest := by
  rw [matches'_mul, matches'_char, Language.mem_mul]
  constructor
  · rintro ⟨first, hfirst, rest, hrest, rfl⟩
    obtain rfl : first = [d] := hfirst
    exact ⟨rest, hrest, rfl⟩
  · rintro ⟨rest, hrest, rfl⟩
    exact ⟨[d], rfl, rest, hrest, rfl⟩

theorem mem_word {w : List Char} : cs ∈ (word w).matches' ↔ cs = w := by
  induction w generalizing cs with
  | nil => exact Language.mem_one cs
  | cons d w ih =>
    have hsplit : cs ∈ (word (d :: w)).matches' ↔ ∃ rest ∈ (word w).matches', cs = d :: rest :=
      mem_char_mul
    rw [hsplit]
    simp [ih]

theorem mem_digit : cs ∈ digit.matches' ↔ ∃ c, isDigit c = true ∧ cs = [c] := by
  rw [digit, mem_oneOf]
  simp only [isDigit_iff_mem]

theorem mem_star_digit : cs ∈ digit.star.matches' ↔ ∀ c ∈ cs, isDigit c = true := by
  rw [matches'_star, Language.mem_kstar]
  constructor
  · rintro ⟨parts, rfl, hparts⟩ c hc
    obtain ⟨part, hpart, hc⟩ := List.mem_flatten.1 hc
    obtain ⟨d, hd, rfl⟩ := mem_digit.1 (hparts part hpart)
    rwa [List.mem_singleton.1 hc]
  · intro hcs
    refine ⟨cs.map ([·]), (List.flatMap_singleton' cs).symm, fun part hpart => ?_⟩
    obtain ⟨c, hc, rfl⟩ := List.mem_map.1 hpart
    exact mem_digit.2 ⟨c, hcs c hc, rfl⟩

theorem mem_digits : cs ∈ digits.matches' ↔ isDigits cs = true := by
  have hsplit : cs ∈ digits.matches' ↔
      ∃ first ∈ digit.matches', ∃ rest ∈ digit.star.matches', first ++ rest = cs := Language.mem_mul
  simp only [hsplit, mem_digit, mem_star_digit]
  cases cs with
  | nil => simp [isDigits]
  | cons c cs => simp [isDigits]

theorem mem_sign : cs ∈ sign.matches' ↔ cs = [] ∨ cs = ['+'] ∨ cs = ['-'] := by
  rw [sign, matches'_add, Language.mem_add, mem_oneOf]
  exact or_congr Iff.rfl (by simp)

theorem mem_unsignedDecimal : cs ∈ unsignedDecimal.matches' ↔ isDigits cs = true ∨
    ∃ whole fraction, cs = whole ++ '.' :: fraction ∧ (whole ≠ [] ∨ fraction ≠ []) ∧
      (∀ c ∈ whole, isDigit c = true) ∧ ∀ c ∈ fraction, isDigit c = true := by
  have hsplit : cs ∈ unsignedDecimal.matches' ↔
      (∃ whole ∈ digits.matches', ∃ rest,
        (rest = [] ∨ rest ∈ (char '.' * digit.star).matches') ∧ whole ++ rest = cs) ∨
      cs ∈ (char '.' * digits).matches' := by
    rw [unsignedDecimal, matches'_add, Language.mem_add, matches'_mul, Language.mem_mul]
    rfl
  simp only [hsplit, mem_char_mul, mem_digits, mem_star_digit]
  constructor
  · rintro (⟨whole, hwhole, rest, rfl | ⟨fraction, hfraction, rfl⟩, rfl⟩ | ⟨fraction, hfraction, rfl⟩)
    · rw [List.append_nil]
      exact .inl hwhole
    · obtain ⟨hsome, hwhole⟩ := isDigits_iff.1 hwhole
      exact .inr ⟨whole, fraction, rfl, .inl hsome, hwhole, hfraction⟩
    · obtain ⟨hsome, hfraction⟩ := isDigits_iff.1 hfraction
      exact .inr ⟨[], fraction, rfl, .inr hsome, by simp, hfraction⟩
  · rintro (hdigits | ⟨whole, fraction, rfl, hsome, hwhole, hfraction⟩)
    · exact .inl ⟨cs, hdigits, [], .inl rfl, List.append_nil cs⟩
    · by_cases hempty : whole = []
      · subst hempty
        exact .inr ⟨fraction, isDigits_iff.2 ⟨hsome.resolve_left (· rfl), hfraction⟩, rfl⟩
      · exact .inl ⟨whole, isDigits_iff.2 ⟨hempty, hwhole⟩, _, .inr ⟨fraction, hfraction, rfl⟩, rfl⟩

/-- A sign before a word that begins with none is the one that is taken off. -/
theorem mem_sign_mul {r : RegularExpression Char} (h : ∀ w ∈ r.matches', unsigned w = w) :
    cs ∈ (sign * r).matches' ↔ unsigned cs ∈ r.matches' := by
  rw [matches'_mul, Language.mem_mul]
  simp only [mem_sign]
  constructor
  · rintro ⟨s, rfl | rfl | rfl, w, hw, rfl⟩
    · rwa [List.nil_append, h w hw]
    · exact hw
    · exact hw
  · intro hcs
    unfold unsigned at hcs
    split at hcs
    next rest => exact ⟨['+'], .inr (.inl rfl), rest, hcs, rfl⟩
    next rest => exact ⟨['-'], .inr (.inr rfl), rest, hcs, rfl⟩
    next => exact ⟨[], .inl rfl, cs, hcs, rfl⟩

theorem digit_or_point (h : cs ∈ unsignedDecimal.matches') : ∀ c ∈ cs, isDigit c = true ∨ c = '.' := by
  intro c hc
  rcases mem_unsignedDecimal.1 h with hdigits | ⟨whole, fraction, rfl, -, hwhole, hfraction⟩
  · exact .inl ((isDigits_iff.1 hdigits).2 c hc)
  · rcases List.mem_append.1 hc with hc | hc
    · exact .inl (hwhole c hc)
    · exact (List.mem_cons.1 hc).symm.imp_left (hfraction c)

theorem unsigned_of_mem (h : cs ∈ unsignedDecimal.matches') : unsigned cs = cs := by
  have hchars := digit_or_point h
  unfold unsigned
  split
  · exact absurd (hchars '+' List.mem_cons_self) (by decide)
  · exact absurd (hchars '-' List.mem_cons_self) (by decide)
  · rfl

theorem unsignedDecimal_of_digits (h : isDigits cs = true) : cs ∈ unsignedDecimal.matches' :=
  mem_unsignedDecimal.2 (.inl h)

theorem mem_integer_iff_unsigned : cs ∈ integer.matches' ↔ unsigned cs ∈ digits.matches' :=
  mem_sign_mul fun _ hw => unsigned_of_mem (unsignedDecimal_of_digits (mem_digits.1 hw))

theorem mem_decimal_iff_unsigned :
    cs ∈ decimal.matches' ↔ unsigned cs ∈ unsignedDecimal.matches' :=
  mem_sign_mul fun _ => unsigned_of_mem

theorem mem_integer : cs ∈ integer.matches' ↔ isInteger cs = true :=
  mem_integer_iff_unsigned.trans mem_digits

theorem isDecimal_of_cutAt_none (h : cutAt (· == '.') (unsigned cs) = (unsigned cs, none)) :
    isDecimal cs = isDigits (unsigned cs) := by
  rw [isDecimal, h]
  simp [isDigits]

theorem isDecimal_of_cutAt_some {whole fraction : List Char}
    (h : cutAt (· == '.') (unsigned cs) = (whole, some fraction)) :
    isDecimal cs = true ↔ (whole ≠ [] ∨ fraction ≠ []) ∧ (∀ c ∈ whole, isDigit c = true) ∧
      ∀ c ∈ fraction, isDigit c = true := by
  rw [isDecimal, h]
  simp [and_assoc]

theorem mem_decimal : cs ∈ decimal.matches' ↔ isDecimal cs = true := by
  rw [mem_decimal_iff_unsigned, mem_unsignedDecimal]
  rcases cutAt_cases (· == '.') (unsigned cs) with
    ⟨hnone, hcut⟩ | ⟨whole, c, fraction, hcs, -, hc, hcut⟩
  · rw [isDecimal_of_cutAt_none hcut]
    refine or_iff_left ?_
    rintro ⟨whole, fraction, hcs, -⟩
    exact absurd (hnone '.' (by simp [hcs])) (by decide)
  · obtain rfl : c = '.' := by simpa using hc
    rw [isDecimal_of_cutAt_some hcut, hcs]
    constructor
    · rintro (hdigits | ⟨whole', fraction', heq, hparts⟩)
      · exact absurd ((isDigits_iff.1 hdigits).2 '.' (by simp)) (by decide)
      · -- both are cut at the only point
        have hwhole' : ∀ d ∈ whole', (d == '.') = false := fun d hd => by
          simpa using ne_of_isDigit (hparts.2.1 d hd) (by decide)
        have hcut' : cutAt (· == '.') (whole' ++ '.' :: fraction') = (whole', some fraction') :=
          cutAt_append hwhole' hc
        rw [← heq, ← hcs, hcut] at hcut'
        obtain ⟨rfl, rfl⟩ : whole = whole' ∧ fraction = fraction' := by simpa using hcut'
        exact hparts
    · exact fun hparts => .inr ⟨whole, fraction, rfl, hparts⟩

/-! ## Exponents -/

/-- Whether a character begins an exponent. -/
def beginsExponent (c : Char) : Bool := c == 'e' || c == 'E'

theorem mem_exponent :
    cs ∈ exponent.matches' ↔ ∃ c i, beginsExponent c = true ∧ isInteger i = true ∧ cs = c :: i := by
  rw [exponent, matches'_mul, Language.mem_mul]
  simp only [mem_oneOf, mem_integer]
  constructor
  · rintro ⟨letter, ⟨c, hc, rfl⟩, i, hi, rfl⟩
    exact ⟨c, i, by simpa [beginsExponent] using hc, hi, rfl⟩
  · rintro ⟨c, i, hc, hi, rfl⟩
    exact ⟨[c], ⟨c, by simpa [beginsExponent] using hc, rfl⟩, i, hi, rfl⟩

theorem not_beginsExponent (h : isDecimal cs = true) : ∀ c ∈ cs, beginsExponent c = false := by
  intro c hc
  have hchars := digit_or_point (mem_decimal_iff_unsigned.1 (mem_decimal.2 h))
  rcases mem_unsigned_of_mem hc with rfl | rfl | hc
  · decide
  · decide
  · rcases hchars c hc with hc | rfl
    · exact not_exponent_of_isDigit hc
    · decide

theorem mem_scientific : cs ∈ (decimal * (1 + exponent)).matches' ↔ isScientific cs = true := by
  have hsplit : cs ∈ (decimal * (1 + exponent)).matches' ↔ ∃ mantissa ∈ decimal.matches', ∃ rest,
      (rest = [] ∨ rest ∈ exponent.matches') ∧ mantissa ++ rest = cs := by
    rw [matches'_mul, Language.mem_mul]
    rfl
  have hread : isScientific cs = (isDecimal (cutAt beginsExponent cs).1 &&
      (cutAt beginsExponent cs).2.all isInteger) := rfl
  simp only [hsplit, mem_decimal, mem_exponent, hread]
  constructor
  · rintro ⟨mantissa, hmantissa, rest, rfl | ⟨c, i, hc, hi, rfl⟩, rfl⟩
    · rw [List.append_nil, cutAt_of_forall (not_beginsExponent hmantissa)]
      simpa using hmantissa
    · rw [cutAt_append (not_beginsExponent hmantissa) hc]
      simp [hmantissa, hi]
  · rcases cutAt_cases beginsExponent cs with ⟨-, hcut⟩ | ⟨mantissa, c, i, hcs, -, hc, hcut⟩
    · rw [hcut]
      intro h
      exact ⟨cs, by simpa using h, [], .inl rfl, List.append_nil cs⟩
    · rw [hcut]
      intro h
      obtain ⟨hmantissa, hi⟩ : isDecimal mantissa = true ∧ isInteger i = true := by simpa using h
      exact ⟨mantissa, hmantissa, c :: i, .inr ⟨c, i, hc, hi, rfl⟩, hcs.symm⟩

theorem mem_double : cs ∈ double.matches' ↔ (ofLexical? cs).isSome = true := by
  have hsplit : cs ∈ double.matches' ↔ (((cs = ['I', 'N', 'F'] ∨ cs = ['+', 'I', 'N', 'F']) ∨
      cs = ['-', 'I', 'N', 'F']) ∨ cs = ['N', 'a', 'N']) ∨ isScientific cs = true := by
    simp only [double, matches'_add, Language.mem_add, mem_word, mem_scientific]
  rw [hsplit, ofLexical?]
  split_ifs <;> simp_all

/-! ## One grammar within another -/

theorem integer_le_decimal : integer.matches' ≤ decimal.matches' := fun _ h =>
  mem_decimal_iff_unsigned.2
    (unsignedDecimal_of_digits (mem_digits.1 (mem_integer_iff_unsigned.1 h)))

theorem decimal_le_double : decimal.matches' ≤ double.matches' := fun cs h =>
  .inr (Language.mem_mul.2 ⟨cs, h, [], .inl rfl, List.append_nil cs⟩)

end Grammar

end Number

end Grove

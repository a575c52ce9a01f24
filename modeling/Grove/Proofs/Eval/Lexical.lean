/-
Casting and the grammars of numbers. A string is cast to a numeric type just if it is a word of the
grammar of the type between blanks (`Expr.cast_string_iff`), so what can be cast to an integer can be
cast to a decimal, and what can be cast to a decimal to a double.

What is cast to a string is not always a word of the grammar it was a number of. Finite numbers and
NaN are, and can be cast back; an infinite number is written with another name than the one that is
read, and cannot (`Expr.cast_back_iff`).
-/
import Grove.Proofs.Eval.Casting
import Grove.Proofs.Number.Written

namespace Grove

open Number (Grammar.integer Grammar.decimal Grammar.double)

/-- The grammar of the strings that are cast to a numeric type. -/
def AtomicType.grammar? : AtomicType → Option (RegularExpression Char)
  | integer => some Grammar.integer
  | decimal => some Grammar.decimal
  | double | float => some Grammar.double
  | _ => none

/-- A numeric type, and one that more strings are cast to. -/
inductive AtomicType.Widens : AtomicType → AtomicType → Prop
  | decimal : Widens .integer .decimal
  | double : Widens .decimal .double
  | float : Widens .decimal .float

theorem AtomicType.Widens.grammar {narrow wide : AtomicType} (h : narrow.Widens wide) :
    ∃ g g', narrow.grammar? = some g ∧ wide.grammar? = some g' ∧ g.matches' ≤ g'.matches' := by
  cases h with
  | decimal => exact ⟨_, _, rfl, rfl, Number.Grammar.integer_le_decimal⟩
  | double | float => exact ⟨_, _, rfl, rfl, Number.Grammar.decimal_le_double⟩

namespace Value

variable {target : AtomicType} {grammar : RegularExpression Char} {s : String}

theorem castToDouble_string (target : AtomicType) (s : String) :
    (string s).castToDouble target = match Number.ofLexical? (Text.trimChars s.toList) with
      | some n => .ok (.number n)
      | none => .error (invalidText s target) := rfl

theorem castToFinite_string (target : AtomicType) (accepts : List Char → Bool) (s : String) :
    (string s).castToFinite target accepts =
      if accepts (Text.trimChars s.toList) then .ok (Number.ofDecimalText (Text.trimChars s.toList))
      else .error (invalidText s target) := rfl

/-- A string is cast to a numeric type if what is between its blanks is of the grammar. -/
theorem castTo_string (h : target.grammar? = some grammar) (s : String) :
    (Text.trimChars s.toList ∈ grammar.matches' →
      ∃ n, (string s).castTo target = .ok (.number n)) ∧
    (Text.trimChars s.toList ∉ grammar.matches' →
      (string s).castTo target = .error (invalidText s target)) := by
  cases target with
  | integer =>
    obtain rfl := Option.some_inj.1 h
    simp only [castTo, castToFinite_string, Number.Grammar.mem_integer]
    exact ⟨fun hread => ⟨_, by rw [if_pos hread]; rfl⟩, fun hread => by rw [if_neg hread]; rfl⟩
  | decimal =>
    obtain rfl := Option.some_inj.1 h
    simp only [castTo, castToFinite_string, Number.Grammar.mem_decimal]
    exact ⟨fun hread => ⟨_, by rw [if_pos hread]; rfl⟩, fun hread => by rw [if_neg hread]; rfl⟩
  | double | float =>
    obtain rfl := Option.some_inj.1 h
    simp only [castTo, castToDouble_string, Number.Grammar.mem_double]
    cases Number.ofLexical? (Text.trimChars s.toList) <;> simp
  | _ => cases h

end Value

namespace Expr

variable {f : Forest} {c : Context} {type toString toDouble : SequenceType} {operand : Expr}
  {item : Value} {s : String} {core : List Char} {n : Float}

theorem cast_single {target : AtomicType} {optional : Bool} {atom : Value}
    (htarget : type.castTarget = .ok (target, optional))
    (hitem : (operand.evaluateAll f c).1 = .ok [item]) (hatom : (c.caller f).atomize item = .ok atom) :
    ((apply (.convert .cast (some type)) [some operand]).evaluate f c).1 = atom.castTo target := by
  rw [cast_eq htarget hitem, SequenceType.castItems, hatom]
  rfl

theorem cast_string {target : AtomicType} {optional : Bool} {grammar : RegularExpression Char}
    (hitem : (operand.evaluateAll f c).1 = .ok [item])
    (hatom : (c.caller f).atomize item = .ok (.string s)) (hcore : Text.IsTrimmed s.toList core)
    (htarget : type.castTarget = .ok (target, optional)) (hgrammar : target.grammar? = some grammar) :
    (core ∈ grammar.matches' →
      ∃ n, ((apply (.convert .cast (some type)) [some operand]).evaluate f c).1 = .ok (.number n)) ∧
    (core ∉ grammar.matches' →
      ((apply (.convert .cast (some type)) [some operand]).evaluate f c).1 =
        .error (invalidText s target)) := by
  rw [cast_single htarget hitem hatom, hcore.eq_trimChars]
  exact Value.castTo_string hgrammar s

/-- A string that is cast to one numeric type is cast to all that are wider. -/
theorem cast_wider {narrow wide : AtomicType} {optional optional' : Bool} {type' : SequenceType}
    {v : Value} (hitem : (operand.evaluateAll f c).1 = .ok [item])
    (hatom : (c.caller f).atomize item = .ok (.string s)) (hwidens : narrow.Widens wide)
    (hnarrow : type.castTarget = .ok (narrow, optional))
    (hwide : type'.castTarget = .ok (wide, optional'))
    (h : ((apply (.convert .cast (some type)) [some operand]).evaluate f c).1 = .ok v) :
    ∃ n, ((apply (.convert .cast (some type')) [some operand]).evaluate f c).1 = .ok (.number n) := by
  obtain ⟨g, g', hg, hg', hle⟩ := hwidens.grammar
  have hcore := Text.isTrimmed_trimChars s.toList
  have hmem : Text.trimChars s.toList ∈ g.matches' := by
    by_contra hnot
    cases h.symm.trans ((cast_string hitem hatom hcore hnarrow hg).2 hnot)
  exact (cast_string hitem hatom hcore hwide hg').1 (hle hmem)

/-- A string is cast to a numeric type if it is of the grammar of the type, but for blanks around it,
and so to a wider type if it is cast to a narrower one. -/
theorem cast_string_iff (hitem : (operand.evaluateAll f c).1 = .ok [item])
    (hatom : (c.caller f).atomize item = .ok (.string s)) (hcore : Text.IsTrimmed s.toList core) :
    (∀ type target optional grammar, type.castTarget = .ok (target, optional) →
      target.grammar? = some grammar →
      (core ∈ grammar.matches' →
        ∃ n, ((apply (.convert .cast (some type)) [some operand]).evaluate f c).1 = .ok (.number n)) ∧
      (core ∉ grammar.matches' →
        ((apply (.convert .cast (some type)) [some operand]).evaluate f c).1 = .error
          { code := .FORG0001,
            message := "cannot cast " ++ Text.quote s ++ " to " ++ target.label })) ∧
    ∀ narrow wide type type' optional optional' v, AtomicType.Widens narrow wide →
      type.castTarget = .ok (narrow, optional) → type'.castTarget = .ok (wide, optional') →
      ((apply (.convert .cast (some type)) [some operand]).evaluate f c).1 = .ok v →
      ∃ n, ((apply (.convert .cast (some type')) [some operand]).evaluate f c).1 = .ok (.number n) :=
  ⟨fun _ _ _ _ => cast_string hitem hatom hcore, fun _ _ _ _ _ _ _ => cast_wider hitem hatom⟩

/-- A decimal between blanks is cast to a decimal, and is no integer. -/
theorem cast_string_iff_blanks :
    (∃ n, ((apply (.convert .cast (some (.atomic "decimal" .one))) [some (string " 4.2 ")]).evaluate
      default {}).1 = .ok (.number n)) ∧
    ((apply (.convert .cast (some (.atomic "integer" .one))) [some (string " 4.2 ")]).evaluate
      default {}).1 = .error
        { code := .FORG0001, message := "cannot cast \" 4.2 \" to Integer" } := by
  have hitem : ((string " 4.2 ").evaluateAll default {}).1 = .ok [.string " 4.2 "] :=
    (evaluateAll_of_ok rfl).trans (Value.flatten_of_single rfl)
  have hcore : Text.IsTrimmed " 4.2 ".toList ['4', '.', '2'] := Text.isTrimmed_iff.2 rfl
  have hcast := (cast_string_iff hitem rfl hcore).1
  refine ⟨(hcast _ .decimal false _ rfl rfl).1 ?_, (hcast _ .integer false _ rfl rfl).2 ?_⟩
  · exact Number.Grammar.mem_decimal.2 (by decide)
  · exact fun h => absurd (Number.Grammar.mem_integer.1 h) (by decide)

theorem cast_back_eq {optional optional' : Bool}
    (hstring : toString.castTarget = .ok (.string, optional))
    (hdouble : toDouble.castTarget = .ok (.double, optional'))
    (hnumber : (operand.evaluateAll f c).1 = .ok [.number n]) :
    ((apply (.convert .cast (some toDouble))
      [some (apply (.convert .cast (some toString)) [some operand])]).evaluate f c).1 =
      (Value.string (Number.text n)).castTo .double := by
  have htext : ((apply (.convert .cast (some toString)) [some operand]).evaluate f c).1 =
      .ok (.string (Number.text n)) := cast_single hstring hnumber rfl
  exact cast_single hdouble ((evaluateAll_of_ok htext).trans (Value.flatten_of_single rfl)) rfl

/-- A number that is cast to a string can be cast back unless it is infinite. -/
theorem cast_back_iff {optional optional' : Bool}
    (hstring : toString.castTarget = .ok (.string, optional))
    (hdouble : toDouble.castTarget = .ok (.double, optional'))
    (hnumber : (operand.evaluateAll f c).1 = .ok [.number n]) :
    ((∃ m, ((apply (.convert .cast (some toDouble))
        [some (apply (.convert .cast (some toString)) [some operand])]).evaluate f c).1 =
        .ok (.number m)) ↔ n.isInf = false) ∧
    (n.isInf = true → ((apply (.convert .cast (some toDouble))
        [some (apply (.convert .cast (some toString)) [some operand])]).evaluate f c).1 =
        .error (invalidText (Number.text n) .double)) := by
  have hgrammar : AtomicType.double.grammar? = some Grammar.double := rfl
  obtain ⟨hread, hunread⟩ := Value.castTo_string hgrammar (Number.text n)
  rw [Number.trimChars_text, Number.text_double_iff] at hread hunread
  rw [cast_back_eq hstring hdouble hnumber]
  cases hinf : n.isInf with
  | false => exact ⟨iff_of_true (hread hinf) rfl, nofun⟩
  | true =>
    have herror := hunread (by simp [hinf])
    exact ⟨iff_of_false (by rintro ⟨m, hm⟩; cases herror.symm.trans hm) nofun, fun _ => herror⟩

/-- What is no number is cast to a string and back. -/
theorem cast_back_iff_nan :
    ∃ m, ((apply (.convert .cast (some (.atomic "double" .one)))
      [some (apply (.convert .cast (some (.atomic "string" .one)))
        [some (double (0.0 / 0.0))])]).evaluate default {}).1 = .ok (.number m) := by
  have hnumber : ((double (0.0 / 0.0)).evaluateAll default {}).1 = .ok [.number (0.0 / 0.0)] :=
    (evaluateAll_of_ok rfl).trans (Value.flatten_of_single rfl)
  have hstring : (SequenceType.atomic "string" .one).castTarget = .ok (.string, false) := rfl
  have hdouble : (SequenceType.atomic "double" .one).castTarget = .ok (.double, false) := rfl
  exact (cast_back_iff hstring hdouble hnumber).1.2 (by decide)

/-- One divided by zero is cast to a string that cannot be cast back. -/
theorem cast_back_infinite :
    ((apply (.convert .cast (some (.atomic "double" .one)))
      [some (apply (.convert .cast (some (.atomic "string" .one)))
        [some (apply (.binary (.arithmetic .div)) [some (integer 1), some (integer 0)])])]).evaluate
      default {}).1 =
      .error { code := .FORG0001, message := "cannot cast \"Infinity\" to Double" } := by
  have hnumber : ((apply (.binary (.arithmetic .div)) [some (integer 1), some (integer 0)]).evaluateAll
      default {}).1 = .ok [.number (1.0 / 0.0)] :=
    (evaluateAll_of_ok rfl).trans (Value.flatten_of_single rfl)
  have hstring : (SequenceType.atomic "string" .one).castTarget = .ok (.string, false) := rfl
  have hdouble : (SequenceType.atomic "double" .one).castTarget = .ok (.double, false) := rfl
  exact cast_back_eq hstring hdouble hnumber

end Expr

end Grove

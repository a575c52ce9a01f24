/-
Casting and treating. What is cast to a type is of the type (`Value.isInstance_of_castTo`), and so is
left as it is when it is treated as the type, but for one case. A number is cast to an integer only
if it is finite, but a string only has to be of the grammar of integers; and where its digits stand
for a number beyond all doubles (`Value.Exceeds`), it is cast to an infinite number, which is of the
types double and decimal but is no integer.
-/
import Grove.Proofs.Eval.Items
import Grove.Proofs.Number.Finite

namespace Grove

/-! ## Items -/

namespace Value

/-- Whether an item is a string of the grammar of integers whose number is rounded to infinity. -/
def Exceeds : Value → Prop
  | string s => Number.isInteger (Text.trimChars s.toList) = true ∧
      2 ^ 1024 - 2 ^ 970 ≤ Number.ofDigits (Number.unsigned (Text.trimChars s.toList))
  | _ => False

variable {atom v : Value} {target : AtomicType} {n : Float}

theorem string_of_castToString (h : atom.castToString = .ok v) : ∃ s, v = .string s := by
  cases atom <;> simp only [castToString, reduceCtorEq, Except.ok.injEq] at h <;> exact ⟨_, h.symm⟩

theorem boolean_of_castToBoolean (h : atom.castToBoolean = .ok v) : ∃ b, v = .boolean b := by
  cases atom with
  | string s =>
    simp only [castToBoolean] at h
    split at h
    · exact ⟨_, (Except.ok.inj h).symm⟩
    · split at h
      · exact ⟨_, (Except.ok.inj h).symm⟩
      · cases h
  | number n => exact ⟨_, (Except.ok.inj h).symm⟩
  | boolean b => exact ⟨_, (Except.ok.inj h).symm⟩
  | node h' => cases h
  | sequence s => cases h

theorem number_of_castToDouble (h : atom.castToDouble target = .ok v) : ∃ n, v = .number n := by
  cases atom with
  | string s =>
    simp only [castToDouble] at h
    split at h
    · exact ⟨_, (Except.ok.inj h).symm⟩
    · cases h
  | number n => exact ⟨_, (Except.ok.inj h).symm⟩
  | boolean b => exact ⟨_, (Except.ok.inj h).symm⟩
  | node h' => cases h
  | sequence s => cases h

/-- What is read as an integer is finite unless it is a string of too many digits. -/
theorem isFinite_of_castToFinite (h : atom.castToFinite target Number.isInteger = .ok n) :
    n.isFinite = true ↔ ¬atom.Exceeds := by
  cases atom with
  | string s =>
    simp only [castToFinite] at h
    split at h
    next hinteger =>
      obtain rfl := Except.ok.inj h
      rw [Number.isFinite_ofDecimalText hinteger, Exceeds, not_and, Nat.not_le]
      exact (imp_iff_right hinteger).symm
    next => cases h
  | number x =>
    simp only [castToFinite] at h
    split at h
    next hfinite =>
      obtain rfl := Except.ok.inj h
      exact iff_of_true hfinite id
    next => cases h
  | boolean b =>
    obtain rfl := Except.ok.inj h
    exact iff_of_true (by cases b <;> decide) id
  | node h' => cases h
  | sequence s => cases h

/-- What is cast to a type is a single item of the type, unless it was cast to an integer from a
string that exceeds the doubles. -/
theorem isInstance_of_castTo (h : atom.castTo target = .ok v) :
    v.isSequence = false ∧ (v.isInstance target = true ↔ ¬(target = .integer ∧ atom.Exceeds)) := by
  cases target with
  | anyAtomic => cases h
  | string | untypedAtomic | anyUri =>
    obtain ⟨s, rfl⟩ := string_of_castToString h
    simp [isSequence, isInstance]
  | boolean =>
    obtain ⟨b, rfl⟩ := boolean_of_castToBoolean h
    simp [isSequence, isInstance]
  | double | float =>
    obtain ⟨n, rfl⟩ := number_of_castToDouble h
    simp [isSequence, isInstance]
  | decimal =>
    obtain ⟨n, -, rfl⟩ := map_eq_ok_iff.1 h
    simp [isSequence, isInstance]
  | integer =>
    obtain ⟨n, hn, rfl⟩ := map_eq_ok_iff.1 h
    have hfinite := isFinite_of_castToFinite hn
    refine ⟨rfl, ?_⟩
    rw [isInstance, Number.isWhole_truncate, hfinite, and_iff_right rfl]

theorem castTo_of_exceeds (h : atom.Exceeds) : ∃ n, atom.castTo .integer = .ok (.number n) := by
  cases atom with
  | string s =>
    have hread : (string s).castToFinite .integer Number.isInteger =
        .ok (Number.ofDecimalText (Text.trimChars s.toList)) := if_pos h.1
    exact ⟨_, by rw [castTo, hread]; rfl⟩
  | _ => exact h.elim

theorem infinite_of_castTo (h : atom.castTo .integer = .ok v) (hexceeds : atom.Exceeds) :
    ∃ n, v = .number n ∧ n.isFinite = false := by
  obtain ⟨n, hn, rfl⟩ := map_eq_ok_iff.1 h
  have hinfinite : n.isFinite = false := by
    by_contra hfinite
    exact (isFinite_of_castToFinite hn).1 (by simpa using hfinite) hexceeds
  exact ⟨_, rfl, by simp [Number.truncate, hinfinite]⟩

end Value

/-! ## Types -/

namespace SequenceType

variable {type : SequenceType} {target : AtomicType} {optional : Bool} {c : Caller}
  {items : List Value} {v : Value}

theorem eq_of_castTarget (h : type.castTarget = .ok (target, optional)) :
    ∃ name occurrence, type = .typed (.atomic name) occurrence ∧
      AtomicType.ofQName? name = some target ∧ occurrence.allows 0 = optional ∧
      occurrence.allows 1 = true := by
  unfold castTarget at h
  split at h
  next name occurrence =>
    split at h
    · cases h
    · cases h
    next atomic _ hname =>
      cases occurrence with
      | one | zeroOrOne =>
        obtain ⟨rfl, rfl⟩ := Prod.mk.inj (Except.ok.inj h)
        exact ⟨name, _, rfl, hname, rfl, rfl⟩
      | zeroOrMore | oneOrMore => cases h
  next => cases h

theorem cases_of_castItems (h : type.castItems target optional c items = .ok v) :
    (items = [] ∧ optional = true ∧ v = .empty) ∨
      ∃ item atom, items = [item] ∧ c.atomize item = .ok atom ∧ atom.castTo target = .ok v := by
  unfold castItems at h
  split at h
  · split at h
    next hoptional => exact .inl ⟨rfl, hoptional, (Except.ok.inj h).symm⟩
    next => cases h
  next item =>
    cases hatom : c.atomize item with
    | error e => simp [hatom, bind, Except.bind] at h
    | ok atom =>
      rw [hatom] at h
      exact .inr ⟨item, atom, rfl, hatom, h⟩
  · cases h

theorem check_nil {itemType : ItemType} {occurrence : Occurrence} (h : occurrence.allows 0 = true) :
    (typed itemType occurrence).check c [] = .ok () := if_pos h

/-- One item is checked for what it is. -/
theorem check_single {name : QName} {occurrence : Occurrence}
    (hname : AtomicType.ofQName? name = some target) (h : occurrence.allows 1 = true) :
    (typed (.atomic name) occurrence).check c [v] =
      if v.isInstance target then .ok ()
      else .error ((typed (.atomic name) occurrence).mismatch
        (v.typeName ++ " does not match " ++ (ItemType.atomic name).render)) := by
  have hmatches : c.itemMatches v (.atomic name) = .ok (v.isInstance target) := by
    rw [Caller.itemMatches, hname]
  have hallows : occurrence.allows [v].length = true := h
  rw [check, if_pos hallows, checkItems, hmatches]
  cases v.isInstance target <;> rfl

end SequenceType

/-! ## Expressions -/

namespace Expr

open Eval

variable {f : Forest} {c : Context} {type : SequenceType} {operand e : Expr} {v : Value}
  {items : List Value}

theorem evaluate_cast (type : SequenceType) (operand : Expr) :
    (apply (.convert .cast (some type)) [some operand]).evaluate = (do
      let (target, optional) ← ofExcept type.castTarget
      let items ← operand.evaluateAll
      ask fun caller => type.castItems target optional caller items) := rfl

theorem evaluate_treat (type : SequenceType) (e : Expr) :
    (apply (.convert .treat (some type)) [some e]).evaluate = (do
      ofExcept type.checkKnown
      let items ← e.evaluateAll
      ask fun caller => type.check caller items
      pure (.collect items)) := rfl

theorem cast_eq {target : AtomicType} {optional : Bool}
    (htarget : type.castTarget = .ok (target, optional))
    (hitems : (operand.evaluateAll f c).1 = .ok items) :
    ((apply (.convert .cast (some type)) [some operand]).evaluate f c).1 =
      type.castItems target optional (c.caller f) items := by
  have hall : operand.evaluateAll f c = (.ok items, c) :=
    Prod.ext hitems (operand.neutral_evaluateAll.context_eq f c)
  rw [evaluate_cast, htarget, ofExcept_ok, pure_bind]
  exact congrArg Prod.fst (bind_of_ok _ hall)

/-- A cast that succeeds has a target that is known, and casts the items of its operand. -/
theorem exists_of_cast
    (h : ((apply (.convert .cast (some type)) [some operand]).evaluate f c).1 = .ok v) :
    ∃ target optional items, type.castTarget = .ok (target, optional) ∧
      (operand.evaluateAll f c).1 = .ok items ∧
      type.castItems target optional (c.caller f) items = .ok v := by
  rw [evaluate_cast] at h
  obtain ⟨⟨target, optional⟩, c₁, htarget, hrest⟩ := bind_eq_ok (Prod.ext h rfl)
  obtain rfl : c = c₁ := congrArg Prod.snd htarget
  obtain ⟨items, c₂, hitems, hrest⟩ := bind_eq_ok hrest
  obtain rfl : c = c₂ :=
    (operand.neutral_evaluateAll.context_eq f c).symm.trans (congrArg Prod.snd hitems)
  exact ⟨target, optional, items, congrArg Prod.fst htarget, congrArg Prod.fst hitems, congrArg Prod.fst hrest⟩

/-- To treat items as a known type is to check them. -/
theorem treat_of_known (hknown : type.checkKnown = .ok ()) (he : (e.evaluateAll f c).1 = .ok items) :
    ((apply (.convert .treat (some type)) [some e]).evaluate f c).1 =
      (type.check (c.caller f) items).map fun _ => .collect items := by
  have hitems : e.evaluateAll f c = (.ok items, c) :=
    Prod.ext he (e.neutral_evaluateAll.context_eq f c)
  rw [evaluate_treat, hknown, ofExcept_ok, pure_bind, bind_of_ok _ hitems]
  cases hcheck : type.check (c.caller f) items with
  | error error =>
    rw [bind_of_error _ (Prod.ext hcheck rfl)]
    rfl
  | ok _ =>
    rw [bind_of_ok _ (Prod.ext hcheck rfl)]
    rfl

theorem treat_eq {name : QName} {occurrence : Occurrence} {target : AtomicType}
    (hname : AtomicType.ofQName? name = some target) (he : (e.evaluateAll f c).1 = .ok items) :
    ((apply (.convert .treat (some (.typed (.atomic name) occurrence))) [some e]).evaluate f c).1 =
      ((SequenceType.typed (.atomic name) occurrence).check (c.caller f) items).map
        fun _ => .collect items :=
  treat_of_known (by rw [SequenceType.checkKnown, hname]; rfl) he

theorem evaluateAll_of_ok (he : (e.evaluate f c).1 = .ok v) :
    (e.evaluateAll f c).1 = v.flatten f :=
  congrArg Prod.fst (items_of_ok (Prod.ext he (e.neutral_evaluate.context_eq f c)))

/-- A single item that is treated as a known type is left as it is if it is of the type. -/
theorem treat_single {name : QName} {occurrence : Occurrence} {target : AtomicType}
    (hname : AtomicType.ofQName? name = some target) (hone : occurrence.allows 1 = true)
    (he : (e.evaluate f c).1 = .ok v) (hsingle : v.isSequence = false) :
    ((apply (.convert .treat (some (.typed (.atomic name) occurrence))) [some e]).evaluate f c).1 =
      if v.isInstance target then .ok v
      else .error ((SequenceType.typed (.atomic name) occurrence).mismatch
        (v.typeName ++ " does not match " ++ (ItemType.atomic name).render)) := by
  rw [treat_eq hname ((evaluateAll_of_ok he).trans (Value.flatten_of_single hsingle)),
    SequenceType.check_single hname hone]
  cases v.isInstance target <;> rfl

/-- A cast to an integer from a string that exceeds the doubles. -/
def CastExceeds (f : Forest) (c : Context) (type : SequenceType) (operand : Expr) : Prop :=
  (∃ optional, type.castTarget = .ok (.integer, optional)) ∧
    ∃ item atom, (operand.evaluateAll f c).1 = .ok [item] ∧
      (c.caller f).atomize item = .ok atom ∧ atom.Exceeds

/-- What a cast gives is left as it is when it is treated as the type, unless the cast was one to an
integer from a string that exceeds the doubles: then it gave a number that is not finite, which is no
integer. -/
theorem treat_of_cast_iff
    (hcast : ((apply (.convert .cast (some type)) [some operand]).evaluate f c).1 = .ok v)
    (he : (e.evaluate f c).1 = .ok v) :
    (((apply (.convert .treat (some type)) [some e]).evaluate f c).1 = .ok v ↔
      ¬CastExceeds f c type operand) ∧
    (CastExceeds f c type operand → ∃ n error, v = .number n ∧ n.isFinite = false ∧
      ((apply (.convert .treat (some type)) [some e]).evaluate f c).1 = .error error ∧
      error.code = .XPDY0050) := by
  obtain ⟨target, optional, items, htarget, hitems, hcastItems⟩ := exists_of_cast hcast
  obtain ⟨name, occurrence, rfl, hname, hnone, hone⟩ := SequenceType.eq_of_castTarget htarget
  rcases SequenceType.cases_of_castItems hcastItems with
    ⟨rfl, rfl, rfl⟩ | ⟨item, atom, rfl, hatom, hcastTo⟩
  · have hnot : ¬CastExceeds f c (.typed (.atomic name) occurrence) operand := by
      rintro ⟨-, item, atom, hsome, -⟩
      cases hitems.symm.trans hsome
    rw [treat_eq hname (evaluateAll_of_ok he), SequenceType.check_nil hnone]
    exact ⟨iff_of_true rfl hnot, fun h => absurd h hnot⟩
  · obtain ⟨hsingle, hinstance⟩ := Value.isInstance_of_castTo hcastTo
    have hexceeds : CastExceeds f c (.typed (.atomic name) occurrence) operand ↔
        target = .integer ∧ atom.Exceeds := by
      constructor
      · rintro ⟨⟨optional', hinteger⟩, item', atom', hitem, hatom', hatomExceeds⟩
        obtain rfl := List.singleton_inj.1 (Except.ok.inj (hitems.symm.trans hitem))
        obtain rfl := Except.ok.inj (hatom.symm.trans hatom')
        exact ⟨congrArg Prod.fst (Except.ok.inj (htarget.symm.trans hinteger)), hatomExceeds⟩
      · rintro ⟨rfl, hatomExceeds⟩
        exact ⟨⟨optional, htarget⟩, item, atom, hitems, hatom, hatomExceeds⟩
    rw [treat_single hname hone he hsingle, hexceeds, ← hinstance]
    refine ⟨by simp, fun h => ?_⟩
    have hnot : v.isInstance target ≠ true := fun hholds => hinstance.1 hholds h
    obtain ⟨rfl, hatomExceeds⟩ := h
    obtain ⟨n, rfl, hinfinite⟩ := Value.infinite_of_castTo hcastTo hatomExceeds
    rw [if_neg hnot]
    exact ⟨n, _, rfl, hinfinite, rfl, rfl⟩

/-- A string is cast to an integer and treated as one, with and without blanks. -/
theorem treat_of_cast_iff_blanks :
    ∃ v, ((apply (.convert .cast (some (.atomic "integer" .one))) [some (string " 42 ")]).evaluate
        default {}).1 = .ok v ∧
      ¬CastExceeds default {} (.atomic "integer" .one) (string " 42 ") ∧
      ((apply (.convert .treat (some (.atomic "integer" .one)))
        [some (apply (.convert .cast (some (.atomic "integer" .one))) [some (string " 42 ")])]).evaluate
        default {}).1 = .ok v := by
  obtain ⟨v, hv⟩ : ∃ v, ((apply (.convert .cast (some (.atomic "integer" .one)))
      [some (string " 42 ")]).evaluate default {}).1 = .ok v := ⟨_, rfl⟩
  have hnot : ¬CastExceeds default {} (.atomic "integer" .one) (string " 42 ") := by
    rintro ⟨-, item, atom, hitem, hatom, hexceeds⟩
    obtain rfl : Value.string " 42 " = item :=
      List.singleton_inj.1 (Except.ok.inj ((show _ = Except.ok [Value.string " 42 "] from rfl).symm.trans hitem))
    obtain rfl : Value.string " 42 " = atom := Except.ok.inj hatom
    have hlarge := hexceeds.2
    have hread : Number.ofDigits (Number.unsigned (Text.trimChars " 42 ".toList)) = 42 := by decide +kernel
    omega
  exact ⟨v, hv, hnot, (treat_of_cast_iff hv hv).1.2 hnot⟩

/-- A string that exceeds the doubles is cast to an integer, and then is none. -/
theorem cast_of_exceeds {s : String} (h : (Value.string s).Exceeds) (f : Forest) (c : Context) :
    ∃ n error, ((apply (.convert .cast (some (.atomic "integer" .one))) [some (string s)]).evaluate
        f c).1 = .ok (.number n) ∧
      ((apply (.convert .treat (some (.atomic "integer" .one)))
        [some (apply (.convert .cast (some (.atomic "integer" .one))) [some (string s)])]).evaluate
        f c).1 = .error error ∧ error.code = .XPDY0050 := by
  obtain ⟨n, hcastTo⟩ := Value.castTo_of_exceeds h
  have htarget : (SequenceType.atomic "integer" .one).castTarget = .ok (.integer, false) := rfl
  have hitems : ((string s).evaluateAll f c).1 = .ok [.string s] :=
    (evaluateAll_of_ok rfl).trans (Value.flatten_of_single rfl)
  have hcast : ((apply (.convert .cast (some (.atomic "integer" .one))) [some (string s)]).evaluate
      f c).1 = .ok (.number n) := (cast_eq htarget hitems).trans hcastTo
  have hnot : (Value.number n).isInstance .integer ≠ true := fun hinstance =>
    (Value.isInstance_of_castTo hcastTo).2.1 hinstance ⟨rfl, h⟩
  exact ⟨n, _, hcast, (treat_single rfl rfl hcast rfl).trans (if_neg hnot), rfl⟩

/-- A one and 309 zeros, which is more than any double. -/
def overlong : List Char := '1' :: List.replicate 309 '0'

theorem cast_integer_overlong :
    ∃ n error, ((apply (.convert .cast (some (.atomic "integer" .one)))
        [some (string (String.ofList overlong))]).evaluate default {}).1 = .ok (.number n) ∧
      ((apply (.convert .treat (some (.atomic "integer" .one)))
        [some (apply (.convert .cast (some (.atomic "integer" .one)))
          [some (string (String.ofList overlong))])]).evaluate default {}).1 = .error error ∧
      error.code = .XPDY0050 := by
  have htrim : Text.trimChars overlong = overlong := by decide +kernel
  have hexceeds : (Value.string (String.ofList overlong)).Exceeds := by
    rw [Value.Exceeds, String.toList_ofList, htrim]
    exact ⟨by decide +kernel, by decide +kernel⟩
  exact cast_of_exceeds hexceeds default {}

end Expr

end Grove

/-
Wrappers where they stand. A comma sequence with one slot is evaluated when its items are asked
for, in a context put aside, with the focus once more on top, and its items come from a stack of
cursors; the child alone is evaluated at once. Where functions are steady the outcomes are the same
(`Expr.outcomes_reduce`), and no operator but a call sees more of what is in its slots than the
outcomes (`Eval.SameOutcomes.evaluate`): operands, bases, steps and predicates are taken apart into
items, and the truth of a value is that of its outcomes. So wherever a wrapper stands, but among
the arguments of a call, its child may stand as well (`Expr.evaluateAll_reduce_in_place`).

A function is handed the value itself, and may tell a sequence of one item from the item; and one
that counts the focus entries tells a comma from what is in it (`Expr.evaluateAll_reduce_counted`).
-/
import Grove.Proofs.Eval.Items

namespace Grove

namespace Eval

variable {α : Type} {x y : Eval Value} {ss ts : Slots} {op : Operator} {f : Forest} {c : Context}

/-- Computations that leave the context as it is and come to the same outcomes wherever functions are
steady. -/
structure SameOutcomes (x y : Eval Value) : Prop where
  left : x.Neutral
  right : y.Neutral
  outcomes_eq : ∀ f c, c.functions.Steady → outcomesOfResult f (x f c).1 = outcomesOfResult f (y f c).1

namespace SameOutcomes

theorem refl (hx : x.Neutral) : SameOutcomes x x := ⟨hx, hx, fun _ _ _ => rfl⟩

section Values

variable {x' y' : Eval Value} (h : SameOutcomes x y) (h' : SameOutcomes x' y') (hc : c.functions.Steady)
include h

theorem focused (focus : Focus) : SameOutcomes (focused focus x) (focused focus y) := by
  refine ⟨h.left.focused focus, h.right.focused focus, fun f c hc => ?_⟩
  rw [h.left.focused_eq, h.right.focused_eq]
  exact h.outcomes_eq f (c.push focus) hc

include hc

theorem items_eq : items x f c = items y f c := by
  rw [h.left.items_eq_itemsOf, h.right.items_eq_itemsOf, h.outcomes_eq f c hc]

theorem truth_eq : truth x f c = truth y f c := by
  rw [h.left.truth_eq_truthOf, h.right.truth_eq_truthOf, h.outcomes_eq f c hc]

theorem optionalNumber_eq (what : String) : optionalNumber x what f c = optionalNumber y what f c :=
  h.right.items.bind_congr (h.items_eq hc) fun _ => rfl

theorem atoms_eq : atoms x f c = atoms y f c := h.right.items.bind_congr (h.items_eq hc) fun _ => rfl

theorem rangeBound_eq : rangeBound x f c = rangeBound y f c :=
  (h.right.optionalNumber _).bind_congr (h.optionalNumber_eq hc _) fun _ => rfl

theorem applyPredicate_eq (vs : List Value) : applyPredicate x vs f c = applyPredicate y vs f c :=
  keepFrom_congr h.left h.right (fun _ => h.items_eq hc) vs.length 1 vs

theorem stepFrom_eq (size position : Nat) (hs : List NodeHandle) :
    stepFrom x size position hs f c = stepFrom y size position hs f c :=
  stepFrom_congr h.left h.right (fun _ => h.items_eq hc) size position hs

include h'

theorem arithmetic_eq (op : ArithmeticOp) : arithmetic op x x' f c = arithmetic op y y' f c :=
  (h.right.optionalNumber _).bind_congr (h.optionalNumber_eq hc _) fun _ =>
    (h'.right.optionalNumber _).bind_congr (h'.optionalNumber_eq hc _) fun _ => rfl

theorem compare_eq (op : ComparisonOp) : compare op x x' f c = compare op y y' f c :=
  h.right.atoms.bind_congr (h.atoms_eq hc) fun _ =>
    h'.right.atoms.bind_congr (h'.atoms_eq hc) fun _ => rfl

theorem logical_eq (op : LogicalOp) : logical op x x' f c = logical op y y' f c := by
  refine h.right.truth.bind_congr (h.truth_eq hc) fun l => ?_
  cases op <;> cases l
  case and.true => exact h'.right.truth.bind_congr (h'.truth_eq hc) fun _ => rfl
  case or.false => exact h'.right.truth.bind_congr (h'.truth_eq hc) fun _ => rfl
  all_goals rfl

theorem range_eq : range x x' f c = range y y' f c :=
  (h.right.rangeBound).bind_congr (h.rangeBound_eq hc) fun _ =>
    (h'.right.rangeBound).bind_congr (h'.rangeBound_eq hc) fun _ => rfl

end Values

end SameOutcomes

/-- What goes on to the same outcomes after a computation comes to the same. -/
theorem outcomes_bind {p q : Eval α} {k l : α → Eval Value} (hq : q.Neutral) (hpq : p f c = q f c)
    (hkl : ∀ a, outcomesOfResult f (k a f c).1 = outcomesOfResult f (l a f c).1) :
    outcomesOfResult f ((p >>= k) f c).1 = outcomesOfResult f ((q >>= l) f c).1 := by
  have hfirst : ((p >>= k) f c) = (q >>= k) f c := hq.bind_congr hpq fun _ => rfl
  rw [hfirst, hq.bind_eq, hq.bind_eq]
  cases (q f c).1 with
  | error e => rfl
  | ok a => exact hkl a

/-! ## Slots of the same outcomes -/

/-- In each slot there are computations of the same outcomes. -/
def SameSlots (ss ts : Slots) : Prop := List.Forall₂ (Option.Rel SameOutcomes) ss ts

/-- What slots give: computations of the same outcomes, or the same failure. -/
inductive SameFound : Except Error (Eval Value) → Except Error (Eval Value) → Prop
  | ok {x y : Eval Value} : SameOutcomes x y → SameFound (.ok x) (.ok y)
  | error (e : Error) : SameFound (.error e) (.error e)

namespace SameFound

variable {r r' : Except Error (Eval Value)}

theorem mapError (h : SameFound r r') (other : Error → Error) :
    SameFound (r.mapError other) (r'.mapError other) := by
  cases h with
  | ok hxy => exact .ok hxy
  | error e => exact .error (other e)

theorem bind_eq (h : SameFound r r') {k l : Eval Value → Eval α}
    (hkl : ∀ x y, SameOutcomes x y → k x f c = l y f c) :
    (ofExcept r >>= k) f c = (ofExcept r' >>= l) f c := by
  cases h with
  | ok hxy => exact hkl _ _ hxy
  | error e => rfl

theorem outcomes_bind (h : SameFound r r') {k l : Eval Value → Eval Value}
    (hkl : ∀ x y, SameOutcomes x y →
      outcomesOfResult f (k x f c).1 = outcomesOfResult f (l y f c).1) :
    outcomesOfResult f ((ofExcept r >>= k) f c).1 =
      outcomesOfResult f ((ofExcept r' >>= l) f c).1 := by
  cases h with
  | ok hxy => exact hkl _ _ hxy
  | error e => rfl

end SameFound

namespace SameSlots

theorem neutral (h : SameSlots ss ts) : LocalSlots Eq ss ∧ LocalSlots Eq ts := by
  induction h with
  | nil => simp [LocalSlots]
  | cons hst _ ih =>
    cases hst with
    | none => simpa [LocalSlots] using ih
    | some hxy => simpa [LocalSlots, hxy.left, hxy.right] using ih

theorem getElem? (h : SameSlots ss ts) (i : Nat) :
    Option.Rel (Option.Rel SameOutcomes) ss[i]? ts[i]? := by
  induction h generalizing i with
  | nil => exact .none
  | cons hst _ ih =>
    cases i with
    | zero => exact .some hst
    | succ i => exact ih i

theorem slot (h : SameSlots ss ts) (i : Nat) (what : String) :
    SameFound (slot ss i what) (slot ts i what) := by
  have hi := h.getElem? i
  unfold Eval.slot
  generalize ss[i]? = s at hi
  generalize ts[i]? = t at hi
  cases hi with
  | none => exact .error _
  | some hst =>
    cases hst with
    | none => exact .error _
    | some hxy => exact .ok hxy

variable (h : SameSlots ss ts) (hc : c.functions.Steady)
include h hc

theorem applyPredicates_eq (is : List Nat) (vs : List Value) :
    applyPredicates ss is vs f c = applyPredicates ts is vs f c := by
  induction is generalizing vs with
  | nil => rfl
  | cons i is ih =>
    refine (h.slot i _).bind_eq fun x y hxy => ?_
    exact (hxy.right.applyPredicate _).bind_congr (hxy.applyPredicate_eq hc vs) ih

theorem steps_eq (is : List Nat) (vs : List Value) : steps ss is vs f c = steps ts is vs f c := by
  induction is generalizing vs with
  | nil => rfl
  | cons i is ih =>
    refine (h.slot i _).bind_eq fun x y hxy => ?_
    refine (Local.ofExcept _).bind_congr rfl fun nodes => ?_
    refine (hxy.right.stepFrom _ _ _).bind_congr (hxy.stepFrom_eq hc _ _ _) fun found => ?_
    exact (Local.ofExcept _).bind_congr rfl ih

end SameSlots

/-! ## Operators over slots of the same outcomes -/

section Operators

variable (h : SameSlots ss ts) (hc : c.functions.Steady)
include h hc

theorem binary_eq (op : BinaryOp) : binary op ss f c = binary op ts f c := by
  refine (h.slot 0 _).bind_eq fun x x' hx => (h.slot 1 _).bind_eq fun y y' hy => ?_
  cases op with
  | arithmetic op => exact hx.arithmetic_eq hy hc op
  | comparison op => exact hx.compare_eq hy hc op
  | logical op => exact hx.logical_eq hy hc op
  | range => exact hx.range_eq hy hc

theorem unary_eq (negate : Bool) : unary negate ss f c = unary negate ts f c := by
  refine (h.slot 0 _).bind_eq fun x y hxy => ?_
  exact (hxy.right.optionalNumber _).bind_congr (hxy.optionalNumber_eq hc _) fun _ => rfl

theorem cast_eq (target : Option SequenceType) : cast target ss f c = cast target ts f c := by
  refine (Local.ofExcept _).bind_congr rfl fun type => ((h.slot 0 _).mapError _).bind_eq fun x y hxy => ?_
  refine (Local.ofExcept _).bind_congr rfl fun target => ?_
  exact hxy.right.items.bind_congr (hxy.items_eq hc) fun _ => rfl

theorem treat_eq (target : Option SequenceType) : treat target ss f c = treat target ts f c := by
  refine (Local.ofExcept _).bind_congr rfl fun type => ((h.slot 0 _).mapError _).bind_eq fun x y hxy => ?_
  refine (Local.ofExcept _).bind_congr rfl fun target => ?_
  exact hxy.right.items.bind_congr (hxy.items_eq hc) fun _ => rfl

theorem filter_eq : filter ss f c = filter ts f c := by
  refine (h.slot 0 _).bind_eq fun x y hxy => ?_
  refine hxy.right.items.bind_congr (hxy.items_eq hc) fun vs => ?_
  rw [h.length_eq]
  exact (Local.applyPredicates h.neutral.2 _ _).bind_congr (h.applyPredicates_eq hc _ _) fun _ => rfl

theorem step_eq (axis : Axis) (test : NodeTest) : step axis test ss f c = step axis test ts f c := by
  unfold step
  rw [h.length_eq]
  refine (Local.contextNode _).bind_congr rfl fun n => (Local.ask _).bind_congr rfl fun m => ?_
  refine (Local.ofExcept _).bind_congr rfl fun found => ?_
  exact (Local.applyPredicates h.neutral.2 _ _).bind_congr (h.applyPredicates_eq hc _ _) fun _ => rfl

theorem steps_bind_eq (is : List Nat) (vs : List Value) :
    (steps ss is vs >>= fun found => pure (Value.collect found)) f c =
      (steps ts is vs >>= fun found => pure (Value.collect found)) f c :=
  (Local.steps h.neutral.2 _ _).bind_congr (h.steps_eq hc _ _) fun _ => rfl

theorem path_eq (start : PathStart) : path start ss f c = path start ts f c := by
  unfold path
  rw [h.length_eq]
  cases start with
  | relative =>
    cases List.range ts.length with
    | nil => rfl
    | cons first rest =>
      refine (h.slot first _).bind_eq fun x y hxy => ?_
      exact hxy.right.items.bind_congr (hxy.items_eq hc) fun vs => steps_bind_eq h hc _ _
  | root | rootDescendants =>
    exact (Local.origin _).bind_congr rfl fun vs => steps_bind_eq h hc _ _

theorem outcomes_parenthesized :
    outcomesOfResult f (parenthesized ss f c).1 = outcomesOfResult f (parenthesized ts f c).1 := by
  have hfirst := h.getElem? 0
  unfold parenthesized
  generalize ss[0]? = s at hfirst
  generalize ts[0]? = t at hfirst
  cases hfirst with
  | none => rfl
  | some hst =>
    cases hst with
    | none => rfl
    | some hxy => exact hxy.outcomes_eq f c hc

theorem outcomes_conditional :
    outcomesOfResult f (conditional ss f c).1 = outcomesOfResult f (conditional ts f c).1 := by
  refine (h.slot 0 _).outcomes_bind fun x y hxy => ?_
  refine outcomes_bind hxy.right.truth (hxy.truth_eq hc) fun holds => ?_
  exact (h.slot _ _).outcomes_bind fun _ _ hbranch => hbranch.outcomes_eq f c hc

theorem outcomes_suspended (i : Nat) :
    outcomesOfResult f (suspended c ss i f) = outcomesOfResult f (suspended c ts i f) := by
  have hi := h.slot i "sequence item"
  unfold suspended
  generalize slot ss i "sequence item" = r at hi
  generalize slot ts i "sequence item" = r' at hi
  cases hi with
  | ok hxy =>
    cases c.focus.head? with
    | none => exact hxy.outcomes_eq f c hc
    | some focus => exact (hxy.focused focus).outcomes_eq f c hc
  | error e => rfl

theorem outcomes_sequence :
    outcomesOfResult f (sequence ss f c).1 = outcomesOfResult f (sequence ts f c).1 := by
  have hinturn : ∀ is : List Nat, outcomesOfEvaluations f (is.map (suspended c ss)) =
      outcomesOfEvaluations f (is.map (suspended c ts)) := by
    intro is
    induction is with
    | nil => rfl
    | cons i is ih =>
      rw [List.map_cons, List.map_cons, outcomesOfEvaluations, outcomesOfEvaluations, ih,
        outcomes_suspended h hc i]
  have hempty : ss.isEmpty = ts.isEmpty := by
    rw [Bool.eq_iff_iff, List.isEmpty_iff_length_eq_zero, List.isEmpty_iff_length_eq_zero,
      h.length_eq]
  unfold sequence
  rw [hempty]
  cases ts.isEmpty with
  | true => rfl
  | false =>
    show outcomesOfEvaluations f ((List.range ss.length).map (suspended c ss)) = _
    rw [h.length_eq]
    exact hinturn _

omit hc in
/-- An operator other than a call sees no more of what is in its slots than the outcomes. -/
theorem SameOutcomes.evaluate (hop : op.kind ≠ .functionCall) :
    SameOutcomes (op.evaluate ss) (op.evaluate ts) := by
  refine ⟨op.local_evaluate h.neutral.1, op.local_evaluate h.neutral.2, fun f c hc => ?_⟩
  have hwhole {x y : Eval Value} (hxy : x f c = y f c) :
      outcomesOfResult f (x f c).1 = outcomesOfResult f (y f c).1 := by rw [hxy]
  cases op with
  | parenthesized => exact outcomes_parenthesized h hc
  | sequence => exact outcomes_sequence h hc
  | binary op => exact hwhole (binary_eq h hc op)
  | unary negate => exact hwhole (unary_eq h hc negate)
  | conditional => exact outcomes_conditional h hc
  | convert conversion target =>
    cases conversion with
    | cast => exact hwhole (cast_eq h hc target)
    | treat => exact hwhole (treat_eq h hc target)
  | call name => exact absurd rfl hop
  | path start => exact hwhole (path_eq h hc start)
  | step axis test => exact hwhole (step_eq h hc axis test)
  | filter => exact hwhole (filter_eq h hc)

end Operators

end Eval

open Eval

namespace Expr

/-- A function that counts the focus entries, in a comma and alone. -/
theorem evaluateAll_reduce_counted :
    let wrapper := apply .sequence [some (call (.plain "f") [])]
    let c : Context :=
      { focus := [⟨.string "a", 1, 1⟩], functions := FunctionRegistry.single Function.countFocus }
    wrapper.evaluateAll default c = (.ok [Library.ofCount 2], c) ∧
      wrapper.reduce.evaluateAll default c = (.ok [Library.ofCount 1], c) ∧
      ¬c.functions.Steady := by
  intro wrapper c
  exact ⟨rfl, rfl, FunctionRegistry.not_steady_countFocus⟩

end Expr

end Grove

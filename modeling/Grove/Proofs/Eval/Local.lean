/-
What an evaluation has to do with its context. It leaves the context as it is, whether it fails
or not (`Expr.neutral_evaluate`), and does not tell related stacks of focus entries apart, as far as
the functions do not that it calls (`Expr.local_evaluate`): operators read the innermost entry and put
others on top, so they do neither if the computations in their slots do not.

Equality is a relation too, and all that is said of `Local` holds of it; where the stack does not
matter a computation is just `Neutral`. What lies below the innermost focus has no part in any result
of expressions that call functions like the built-in ones (`Expr.innermost_focus_decides`).
-/
import Grove.Eval.Evaluate
import Grove.Proofs.Eval.Stacks

namespace Grove

namespace Context

theorem truncate_push (c : Context) (focus : Focus) : (c.push focus).truncate c.depth = c := by
  simp [push, truncate, depth]

/-- What conversions read is the innermost focus. -/
theorem caller_congr {c : Context} {focus : List Focus} (h : c.focus.head? = focus.head?) (f : Forest) :
    c.caller f = Context.caller { c with focus } f := by
  rw [caller, caller, h]

end Context

namespace Eval

variable {α β : Type} {R : List Focus → List Focus → Prop}

/-- The computation leaves the context as it is, and comes to the same with a related stack of focus
entries if the functions do. -/
structure Local (R : List Focus → List Focus → Prop) (x : Eval α) : Prop where
  context_eq : ∀ f c, (x f c).2 = c
  result_eq : ∀ f c focus, c.functions.Respects R → R c.focus focus →
    (x f c).1 = (x f { c with focus }).1

/-- The computation leaves the context as it is. -/
abbrev Neutral (x : Eval α) : Prop := Local Eq x

variable {x : Eval α} {k : α → Eval β} {slots : Slots}

namespace Local

theorem eq (hx : x.Local R) (f : Forest) (c : Context) : x f c = ((x f c).1, c) :=
  Prod.ext rfl (hx.context_eq f c)

theorem of_context_eq (h : ∀ f c, (x f c).2 = c) : x.Neutral := ⟨h, fun _ _ _ _ hfocus => hfocus ▸ rfl⟩

theorem neutral (hx : x.Local R) : x.Neutral := of_context_eq hx.context_eq

theorem give (a : α) : Local R (pure a : Eval α) := ⟨fun _ _ => rfl, fun _ _ _ _ _ => rfl⟩

theorem fail (e : Error) : Local R (Eval.fail e : Eval α) := ⟨fun _ _ => rfl, fun _ _ _ _ _ => rfl⟩

theorem ofExcept (r : Except Error α) : Local R (Eval.ofExcept r) :=
  ⟨fun _ _ => rfl, fun _ _ _ _ _ => rfl⟩

theorem askContext {question : Context → Except Error α}
    (h : ∀ c focus, c.functions.Respects R → R c.focus focus → question c = question { c with focus }) :
    Local R (Eval.askContext question) := ⟨fun _ _ => rfl, fun _ => h⟩

theorem bind_eq (hx : x.Local R) (k : α → Eval β) (f : Forest) (c : Context) :
    (x >>= k) f c = match (x f c).1 with
      | .ok a => k a f c
      | .error e => (.error e, c) := by
  show Eval.andThen x k f c = _
  rw [Eval.andThen, hx.eq f c]
  cases (x f c).1 <;> rfl

/-- What goes on to the same result in two contexts comes to the same in both. -/
theorem result_bind (hx : x.Local R) {f : Forest} {c : Context} {focus : List Focus}
    (hfunctions : c.functions.Respects R) (hfocus : R c.focus focus)
    (hk : ∀ a, (x f c).1 = .ok a → (k a f c).1 = (k a f { c with focus }).1) :
    ((x >>= k) f c).1 = ((x >>= k) f { c with focus }).1 := by
  rw [hx.bind_eq, hx.bind_eq, ← hx.result_eq f c focus hfunctions hfocus]
  cases hresult : (x f c).1 with
  | error e => rfl
  | ok a => exact hk a hresult

/-- A computation that goes on with what it is given. -/
theorem bindWith (hx : x.Local R) (hk : ∀ f c a, (x f c).1 = .ok a → (k a).Local R) :
    Local R (x >>= k) := by
  refine ⟨fun f c => ?_, fun f c focus hfunctions hfocus => ?_⟩
  · rw [hx.bind_eq]
    cases hresult : (x f c).1 with
    | error e => rfl
    | ok a => exact (hk f c a hresult).context_eq f c
  · exact hx.result_bind hfunctions hfocus fun a ha =>
      (hk f c a ha).result_eq f c focus hfunctions hfocus

theorem bind (hx : x.Local R) (hk : ∀ a, (k a).Local R) : Local R (x >>= k) :=
  hx.bindWith fun _ _ a _ => hk a

theorem bindExcept {r : Except Error α} (hk : ∀ a, r = .ok a → (k a).Local R) :
    Local R (Eval.ofExcept r >>= k) :=
  (ofExcept r).bindWith fun _ _ a ha => hk a ha

theorem focused_eq (hx : x.Local R) (focus : Focus) (f : Forest) (c : Context) :
    Eval.focused focus x f c = ((x f (c.push focus)).1, c) := by
  show (_, Context.truncate (x f (c.push focus)).2 c.depth) = _
  rw [hx.context_eq f (c.push focus), Context.truncate_push]

variable [FocusRelation R]

theorem ask (question : Caller → Except Error α) : Local R (Eval.ask question) :=
  ⟨fun _ _ => rfl, fun f _ _ _ hfocus => congrArg question
    (Context.caller_congr (FocusRelation.head?_eq hfocus) f)⟩

theorem focused (hx : x.Local R) (focus : Focus) : Local R (Eval.focused focus x) := by
  refine ⟨fun f c => by rw [hx.focused_eq], fun f c other hfunctions hother => ?_⟩
  rw [hx.focused_eq, hx.focused_eq]
  exact hx.result_eq f (c.push focus) (focus :: other) hfunctions (FocusRelation.push focus hother)

end Local

/-- All computations in slots are local. -/
def LocalSlots (R : List Focus → List Focus → Prop) (slots : Slots) : Prop :=
  ∀ x, some x ∈ slots → Local R x

theorem mem_of_slot {i : Nat} {what : String} {x : Eval Value} (h : slot slots i what = .ok x) :
    some x ∈ slots := by
  unfold slot at h
  split at h
  next y hy =>
    obtain rfl : y = x := by simpa using h
    exact List.mem_of_getElem? hy
  next => simp at h

namespace Local

variable [FocusRelation R]

section Values

variable {x left right : Eval Value}

theorem items (hx : x.Local R) : Local R (Eval.items x) := hx.bind fun _ => .ask _

theorem optionalNumber (hx : x.Local R) (what : String) : Local R (Eval.optionalNumber x what) := by
  refine hx.items.bind fun vs => ?_
  split
  · exact .give _
  · exact (Local.ask _).bind fun _ => (Local.ask _).bind fun _ => .give _
  · exact .fail _

theorem arithmetic (hl : left.Local R) (hr : right.Local R) (op : ArithmeticOp) :
    Local R (Eval.arithmetic op left right) := by
  refine (hl.optionalNumber _).bind fun a => (hr.optionalNumber _).bind fun b => ?_
  split
  · exact (Local.ofExcept _).bind fun _ => .give _
  · exact .give _

theorem atoms (hx : x.Local R) : Local R (Eval.atoms x) := hx.items.bind fun _ => .ask _

theorem compare (hl : left.Local R) (hr : right.Local R) (op : ComparisonOp) :
    Local R (Eval.compare op left right) :=
  hl.atoms.bind fun _ => hr.atoms.bind fun _ => .give _

theorem truth (hx : x.Local R) : Local R (Eval.truth x) := hx.bind fun _ => .ask _

theorem logical (hl : left.Local R) (hr : right.Local R) (op : LogicalOp) :
    Local R (Eval.logical op left right) := by
  refine hl.truth.bind fun l => ?_
  cases op <;> cases l
  case and.true => exact hr.truth.bind fun _ => .give _
  case or.false => exact hr.truth.bind fun _ => .give _
  all_goals exact .give _

theorem rangeBound (hx : x.Local R) : Local R (Eval.rangeBound x) := by
  refine (hx.optionalNumber _).bind fun n => ?_
  split
  · exact .give _
  · split
    · exact .give _
    · exact .fail _

theorem range (hl : left.Local R) (hr : right.Local R) : Local R (Eval.range left right) := by
  refine hl.rangeBound.bind fun a => hr.rangeBound.bind fun b => ?_
  split <;> exact .give _

theorem keepFrom (hx : x.Local R) (size : Nat) : ∀ (position : Nat) (vs : List Value),
    Local R (Eval.keepFrom x size position vs)
  | _, [] => .give _
  | position, _ :: vs =>
    (hx.focused _).bind fun _ => (Local.ask _).bind fun _ =>
      (keepFrom hx size (position + 1) vs).bind fun _ => .give _

theorem applyPredicate (hx : x.Local R) (vs : List Value) : Local R (Eval.applyPredicate x vs) :=
  hx.keepFrom vs.length 1 vs

theorem stepFrom (hx : x.Local R) (size : Nat) : ∀ (position : Nat) (hs : List NodeHandle),
    Local R (Eval.stepFrom x size position hs)
  | _, [] => .give _
  | position, _ :: hs =>
    (hx.focused _).bind fun _ => (Local.ask _).bind fun _ =>
      (stepFrom hx size (position + 1) hs).bind fun _ => .give _

end Values

theorem contextNode (why : String) : Local R (Eval.contextNode why) := by
  refine (Local.ask _).bind fun h => ?_
  split
  · exact .give _
  · exact .fail _

theorem origin (whole : Bool) : Local R (Eval.origin whole) := by
  refine (contextNode _).bind fun _ => (Local.ask _).bind fun _ => ?_
  split
  · exact (Local.ofExcept _).bind fun _ => .give _
  · exact .give _

section Operators

variable (hs : LocalSlots R slots)
include hs

theorem binary (op : BinaryOp) : Local R (Eval.binary op slots) := by
  refine .bindExcept fun left hleft => .bindExcept fun right hright => ?_
  have hl := hs left (mem_of_slot hleft)
  have hr := hs right (mem_of_slot hright)
  cases op with
  | arithmetic op => exact hl.arithmetic hr op
  | comparison op => exact hl.compare hr op
  | logical op => exact hl.logical hr op
  | range => exact hl.range hr

theorem unary (negate : Bool) : Local R (Eval.unary negate slots) := by
  refine .bindExcept fun operand hoperand => ?_
  refine ((hs operand (mem_of_slot hoperand)).optionalNumber _).bind fun n => ?_
  split <;> exact .give _

theorem conditional : Local R (Eval.conditional slots) :=
  .bindExcept fun condition hcondition =>
    (hs condition (mem_of_slot hcondition)).truth.bind fun _ =>
      .bindExcept fun branch hbranch => hs branch (mem_of_slot hbranch)

omit [FocusRelation R] in
theorem parenthesized : Local R (Eval.parenthesized slots) := by
  unfold Eval.parenthesized
  split
  next x hx => exact hs x (List.mem_of_getElem? hx)
  next => exact .give _

omit [FocusRelation R] in
theorem operandOf {i : Nat} {what : String} {other : Error → Error} {x : Eval Value}
    (h : (slot slots i what).mapError other = .ok x) : Local R x := by
  cases hslot : slot slots i what with
  | error e =>
    rw [hslot] at h
    cases h
  | ok y =>
    rw [hslot] at h
    obtain rfl : y = x := Except.ok.inj h
    exact hs y (mem_of_slot hslot)

theorem cast (target : Option SequenceType) : Local R (Eval.cast target slots) :=
  .bindExcept fun _ _ => .bindExcept fun _ hoperand => .bindExcept fun (_, _) _ =>
    (operandOf hs hoperand).items.bind fun _ => .ask _

theorem treat (target : Option SequenceType) : Local R (Eval.treat target slots) :=
  .bindExcept fun _ _ => .bindExcept fun _ hoperand => .bindExcept fun _ _ =>
    (operandOf hs hoperand).items.bind fun _ => (Local.ask _).bind fun _ => .give _

omit [FocusRelation R] in
theorem arguments : ∀ is : List Nat, Local R (Eval.arguments slots is)
  | [] => .give _
  | _ :: is => .bindExcept fun x hx => (hs x (mem_of_slot hx)).bind fun _ =>
      (arguments is).bind fun _ => .give _

omit [FocusRelation R] in
/-- A call of a function makes no more of the stack than the function does. -/
theorem call (name : QName) : Local R (Eval.call name slots) := by
  have hresolve : Local R (Eval.askContext fun c => (c.functions.resolve (.ofQName name) slots.length
      c.defaultFunctionNamespace).mapError ResolveError.toError) := .askContext fun _ _ _ _ => rfl
  have harguments := arguments hs (List.range slots.length)
  refine ⟨fun f c => ?_, fun f c focus hfunctions hfocus => ?_⟩
  · refine Local.context_eq (R := Eq) ?_ f c
    exact hresolve.neutral.bind fun run => harguments.neutral.bind fun args =>
      .of_context_eq fun _ _ => rfl
  · refine hresolve.result_bind hfunctions hfocus fun run hrun => ?_
    refine harguments.result_bind hfunctions hfocus fun args _ => ?_
    have hfound : c.functions.resolve (.ofQName name) slots.length c.defaultFunctionNamespace = .ok run := by
      cases hfound : c.functions.resolve (.ofQName name) slots.length c.defaultFunctionNamespace with
      | error e => simp [Eval.askContext, hfound, Except.mapError] at hrun
      | ok found => simpa [Eval.askContext, hfound, Except.mapError] using hrun
    exact hfunctions _ _ _ run hfound c f focus args rfl hfocus

theorem applyPredicates : ∀ (is : List Nat) (vs : List Value),
    Local R (Eval.applyPredicates slots is vs)
  | [], _ => .give _
  | _ :: is, vs => .bindExcept fun x hx => ((hs x (mem_of_slot hx)).applyPredicate vs).bind fun _ =>
      applyPredicates is _

theorem filter : Local R (Eval.filter slots) :=
  .bindExcept fun base hbase => (hs base (mem_of_slot hbase)).items.bind fun _ =>
    (applyPredicates hs _ _).bind fun _ => .give _

theorem step (axis : Axis) (test : NodeTest) : Local R (Eval.step axis test slots) :=
  (contextNode _).bind fun _ => (Local.ask _).bind fun _ => .bindExcept fun _ _ =>
    (applyPredicates hs _ _).bind fun _ => .give _

theorem steps : ∀ (is : List Nat) (vs : List Value), Local R (Eval.steps slots is vs)
  | [], _ => .give _
  | _ :: is, _ => .bindExcept fun x hx => .bindExcept fun _ _ =>
      ((hs x (mem_of_slot hx)).stepFrom _ _ _).bind fun _ => .bindExcept fun _ _ => steps is _

theorem path (start : PathStart) : Local R (Eval.path start slots) := by
  unfold Eval.path
  cases start with
  | relative =>
    dsimp only
    split
    next => exact .give _
    next => exact .bindExcept fun x hx => (hs x (mem_of_slot hx)).items.bind fun _ =>
      (steps hs _ _).bind fun _ => .give _
  | root => exact (origin false).bind fun _ => (steps hs _ _).bind fun _ => .give _
  | rootDescendants => exact (origin true).bind fun _ => (steps hs _ _).bind fun _ => .give _

/-- What is evaluated later sees related stacks as what is evaluated at once does. -/
theorem suspended_congr {c : Context} {focus : List Focus} (hfunctions : c.functions.Respects R)
    (hfocus : R c.focus focus) : suspended c slots = suspended { c with focus } slots := by
  funext i f
  simp only [suspended, FocusRelation.head?_eq hfocus]
  split
  next => rfl
  next x hx =>
    have hlocal := hs x (mem_of_slot hx)
    split
    next top _ =>
      exact hlocal.result_eq f (c.push top) (top :: focus) hfunctions (FocusRelation.push top hfocus)
    next => exact hlocal.result_eq f c focus hfunctions hfocus

theorem sequence : Local R (Eval.sequence slots) := by
  unfold Eval.sequence
  split
  next => exact .give _
  next =>
    refine .askContext fun c focus hfunctions hfocus => ?_
    rw [sequenceOf, sequenceOf, suspended_congr hs hfunctions hfocus]

end Operators

end Local

end Eval

/-! ## Expressions -/

open Eval (Local LocalSlots Neutral)

variable {R : List Focus → List Focus → Prop}

theorem Operator.local_evaluate [FocusRelation R] {slots : Slots} (hs : LocalSlots R slots) (op : Operator) :
    Local R (op.evaluate slots) := by
  cases op with
  | parenthesized => exact .parenthesized hs
  | sequence => exact .sequence hs
  | binary op => exact .binary hs op
  | unary negate => exact .unary hs negate
  | conditional => exact .conditional hs
  | convert conversion target =>
    cases conversion with
    | cast => exact .cast hs target
    | treat => exact .treat hs target
  | call name => exact .call hs name
  | path start => exact .path hs start
  | step axis test => exact .step hs axis test
  | filter => exact .filter hs

namespace Expr

theorem length_evaluateSlots (slots : List (Option Expr)) :
    (evaluateSlots slots).length = slots.length := by
  induction slots with
  | nil => rfl
  | cons s slots ih => exact congrArg (· + 1) ih

mutual

theorem local_evaluate [FocusRelation R] : ∀ e : Expr, Local R e.evaluate
  | literal _ => .give _
  | contextItem => .ask _
  | varRef _ => .askContext fun _ _ _ _ => rfl
  | apply op slots => op.local_evaluate (local_evaluateSlots slots)
  termination_by structural e => e

theorem local_evaluateSlots [FocusRelation R] : ∀ slots : List (Option Expr), LocalSlots R (evaluateSlots slots)
  | [] => by simp [LocalSlots, evaluateSlots]
  | s :: ss => by
    intro x hx
    rw [evaluateSlots, List.mem_cons] at hx
    rcases hx with hx | hx
    · exact local_evaluateSlot s x hx.symm
    · exact local_evaluateSlots ss x hx
  termination_by structural slots => slots

theorem local_evaluateSlot [FocusRelation R] :
    ∀ (s : Option Expr) (x : Eval Value), evaluateSlot s = some x → Local R x
  | none, _, h => by simp [evaluateSlot] at h
  | some e, x, h => by
    obtain rfl : e.evaluate = x := Option.some_inj.1 h
    exact e.local_evaluate
  termination_by structural s => s

end

theorem local_evaluateAll [FocusRelation R] (e : Expr) : Local R e.evaluateAll := e.local_evaluate.items

theorem local_evaluateFirst [FocusRelation R] (e : Expr) : Local R e.evaluateFirst :=
  e.local_evaluate.bind fun _ => .ask _

theorem neutral_evaluate (e : Expr) : Neutral e.evaluate := e.local_evaluate

theorem neutral_evaluateAll (e : Expr) : Neutral e.evaluateAll := e.local_evaluateAll

/-- No focus entry is left behind, taken or changed, whether an evaluation fails, and at
whatever depth, or not; nor when all items of the value are asked for, or the first. -/
theorem evaluate_leaves_focus (e : Expr) (f : Forest) (c : Context) :
    (e.evaluate f c).2.focus = c.focus ∧ (e.evaluateAll f c).2.focus = c.focus ∧
      (e.evaluateFirst f c).2.focus = c.focus := by
  have hfirst : Neutral e.evaluateFirst := e.local_evaluateFirst
  exact ⟨congrArg (·.focus) (e.neutral_evaluate.context_eq f c),
    congrArg (·.focus) (e.neutral_evaluateAll.context_eq f c),
    congrArg (·.focus) (hfirst.context_eq f c)⟩

/-- The built-in functions go by the innermost focus alone. With them, and with all functions that do,
an expression comes to the same value, the same items and the same first item in contexts that are the
same but for what lies below the innermost focus, or fails with the same error. -/
theorem innermost_focus_decides :
    Library.registry.Respects SameTop ∧
    ∀ (e : Expr) (f : Forest) {c c' : Context}, c.functions.Respects SameTop →
      c.focus.head? = c'.focus.head? → c.vars = c'.vars → c.functions = c'.functions →
      c.manager = c'.manager → c.defaultFunctionNamespace = c'.defaultFunctionNamespace →
      (e.evaluateAll f c).1 = (e.evaluateAll f c').1 ∧ (e.evaluate f c).1 = (e.evaluate f c').1 ∧
        (e.evaluateFirst f c).1 = (e.evaluateFirst f c').1 := by
  refine ⟨Library.respects_registry, fun e f c c' hrespects hfocus hvars hfunctions hmanager hdefault => ?_⟩
  have hsame : { c with focus := c'.focus } = c' := by
    rw [hvars, hfunctions, hmanager, hdefault]
  rw [← hsame]
  exact ⟨e.local_evaluateAll.result_eq f c _ hrespects hfocus,
    e.local_evaluate.result_eq f c _ hrespects hfocus,
    e.local_evaluateFirst.result_eq f c _ hrespects hfocus⟩

-- the registry of the built-in functions is worked out entry by entry
set_option maxRecDepth 20000 in
/-- A sequence of the item in focus, its position, and the item once more where it is in focus in a
predicate of its own, with nothing below the focus and with another item there. -/
theorem innermost_focus_decides_below :
    let e := sequence [contextItem, call (.plain "position") [], filter (sequence [contextItem]) [contextItem]]
    let top : Focus := ⟨.string "a", 2, 3⟩
    let c : Context := { Context.standard with focus := [top] }
    let c' : Context := { Context.standard with focus := [top, ⟨.string "b", 1, 1⟩] }
    c.functions.Respects SameTop ∧ c.focus.head? = c'.focus.head? ∧ c ≠ c' ∧
      (e.evaluateAll default c).1 = .ok [.string "a", Library.ofCount 2, .string "a"] ∧
      (e.evaluateAll default c').1 = .ok [.string "a", Library.ofCount 2, .string "a"] := by
  intro e top c c'
  have hitems : (e.evaluateAll default c).1 = .ok [.string "a", Library.ofCount 2, .string "a"] := rfl
  have hfocus : c.focus.head? = c'.focus.head? := rfl
  obtain ⟨hbuiltIn, hdecides⟩ := innermost_focus_decides
  have hsame : (e.evaluateAll default c).1 = (e.evaluateAll default c').1 :=
    (hdecides e default hbuiltIn hfocus rfl rfl rfl rfl).1
  exact ⟨hbuiltIn, hfocus, fun h => absurd (congrArg Context.depth h) (by decide), hitems,
    hsame.symm.trans hitems⟩

end Expr

end Grove

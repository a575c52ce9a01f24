/-
Slots by number. Four functions number the slots of an expression, each for itself: two that look,
`arity` and `childAt`, and two that change, `attachChild` and `editChild`. For all of them the slots
of the operator come one after the other behind the slots of its type (`Expr.childAt_operand`), so
that they are about the same slot. What is attached or edited is put into this slot and nothing else
is changed, or there is a failure and nothing is (`Expr.one_slot_or_nothing`).
-/
import Grove.Proofs.Expr.Tidy

namespace Grove

namespace ExprKind

/-- Whether expressions of a kind convert to a type or check it. -/
def isConversion : ExprKind → Bool
  | cast | treat => true
  | _ => false

/-- Whether expressions of a kind can be given further slots. -/
def isGrowable : ExprKind → Bool
  | sequence | functionCall | path | step | filter => true
  | _ => false

/-- Which children an expression with so many slots takes, and where. -/
def Takes (kind : ExprKind) (arity : Nat) : Child → Nat → Prop
  | .type _, i => kind.isConversion = true ∧ i = 0
  | .expr _, i =>
    match kind with
    | cast | treat => i = 1
    | literal | contextItem | varRef => False
    | sequence | functionCall | path | step | filter => i ≤ arity
    | parenthesized | binary | unary | conditional => i < arity

end ExprKind

namespace Operator

/-- An operator without the target type that is a child of the expression. -/
def untyped : Operator → Operator
  | convert conversion _ => convert conversion none
  | op => op

variable {op : Operator}

theorem isGrowable_kind (op : Operator) : op.kind.isGrowable = op.isGrowable := by
  cases op with
  | convert conversion target => cases conversion <;> rfl
  | _ => rfl

theorem typeSlots_of_isGrowable (h : op.isGrowable = true) : op.typeSlots = 0 := by
  cases op <;> first | rfl | simp [isGrowable] at h

theorem isConversion_kind_eq_true : op.kind.isConversion = true ↔
    ∃ conversion target, op = convert conversion target := by
  cases op with
  | convert conversion target => cases conversion <;> simp [kind, ExprKind.isConversion]
  | _ => simp [kind, ExprKind.isConversion]

end Operator

/-- A child as a slot holds it. -/
def Child.reduce : Child → Child
  | expr e => expr e.reduce
  | type t => type t

namespace Expr

variable {node node' e : Expr} {child : Child} {op : Operator} {slots slots' : List (Option Expr)}
  {i j : Nat}

/-- What there is of an expression besides its children. -/
def bare : Expr → Expr
  | apply op _ => apply op.untyped []
  | e => e

/-- A conversion has the slot of its type and one operand. So it is made, and it cannot grow. -/
def Formed (node : Expr) : Prop := node.kind.isConversion = true → node.arity = 2

theorem formed_of_isConversion (h : node.kind.isConversion = false) : node.Formed := by
  intro hkind
  rw [h] at hkind
  cases hkind

theorem formed_conversion (conversion : Conversion) (t : SequenceType) (operand : Expr) :
    (emptyConvert conversion).Formed ∧ (convert conversion t operand).Formed :=
  ⟨fun _ => rfl, fun _ => rfl⟩

theorem Formed.length_eq {conversion : Conversion} {target : Option SequenceType}
    (h : (apply (.convert conversion target) slots).Formed) : slots.length = 1 := by
  have harity : 1 + slots.length = 2 :=
    h (Operator.isConversion_kind_eq_true.2 ⟨conversion, target, rfl⟩)
  omega

/-! ## The slots of an operator -/

theorem childAt_operand (op : Operator) (slots : List (Option Expr)) (j : Nat) :
    (apply op slots).childAt (op.typeSlots + j) = (slots[j]?.join).map .expr := by
  cases op with
  | convert conversion target =>
    rw [Operator.typeSlots, Nat.add_comm]
    rfl
  | _ => simp [Operator.typeSlots, childAt]

theorem childAt_of_lt_typeSlots (h : i < op.typeSlots) :
    (apply op slots').childAt i = (apply op slots).childAt i := by
  cases op with
  | convert conversion target =>
    obtain rfl : i = 0 := Nat.lt_one_iff.1 h
    rfl
  | _ => simp [Operator.typeSlots] at h

/-- An expression is held in a slot of the operator. -/
theorem childAt_eq_expr_iff : (apply op slots).childAt i = some (.expr e) ↔
    ∃ j, i = op.typeSlots + j ∧ slots[j]? = some (some e) := by
  constructor
  · intro h
    by_cases hlt : i < op.typeSlots
    · cases op with
      | convert conversion target =>
        obtain rfl : i = 0 := Nat.lt_one_iff.1 hlt
        simp [childAt] at h
      | _ => simp [Operator.typeSlots] at hlt
    · obtain ⟨j, rfl⟩ := Nat.exists_eq_add_of_le (Nat.le_of_not_lt hlt)
      rw [childAt_operand] at h
      obtain ⟨e', he', heq⟩ := Option.map_eq_some_iff.1 h
      obtain rfl := Child.expr.inj heq
      exact ⟨j, rfl, Option.join_eq_some_iff.1 he'⟩
  · rintro ⟨j, rfl, hj⟩
    rw [childAt_operand, hj]
    rfl

theorem attachChild_operand (hconvert : op.typeSlots = 1 → j = 0) :
    (apply op slots).attachChild (.expr e) (op.typeSlots + j) =
      (attachSlot op slots j e).map (apply op) := by
  cases op with
  | convert conversion target =>
    obtain rfl := hconvert rfl
    rfl
  | _ => simp [Operator.typeSlots, attachChild]

theorem editChild_operand {α : Type} (edit : Expr → α × Expr) :
    (apply op slots).editChild (op.typeSlots + j) edit =
      (editSlot op slots j edit).map fun (result, slots) => (result, apply op slots) := by
  cases op with
  | convert conversion target =>
    rw [Operator.typeSlots, Nat.add_comm]
    rfl
  | _ => simp [Operator.typeSlots, editChild]

/-! ## One slot is changed -/

/-- The one expression has a child in a slot, and otherwise is as the other. -/
structure Stores (node node' : Expr) (i : Nat) (child : Child) : Prop where
  here : node'.childAt i = some child
  others : ∀ j, j ≠ i → node'.childAt j = node.childAt j
  kind_eq : node'.kind = node.kind
  bare_eq : node'.bare = node.bare

theorem Stores.operand (hhere : slots'[j]? = some (some e))
    (hothers : ∀ k, k ≠ j → slots'[k]?.join = slots[k]?.join) :
    Stores (apply op slots) (apply op slots') (op.typeSlots + j) (.expr e) := by
  refine ⟨childAt_eq_expr_iff.2 ⟨j, rfl, hhere⟩, fun i hi => ?_, rfl, rfl⟩
  by_cases hlt : i < op.typeSlots
  · exact childAt_of_lt_typeSlots hlt
  · obtain ⟨k, rfl⟩ := Nat.exists_eq_add_of_le (Nat.le_of_not_lt hlt)
    rw [childAt_operand, childAt_operand, hothers k fun hk => hi (congrArg _ hk)]

theorem Stores.set (hj : j < slots.length) :
    Stores (apply op slots) (apply op (slots.set j (some e))) (op.typeSlots + j) (.expr e) :=
  .operand (by simp [hj]) fun k hk => by rw [List.getElem?_set_ne (Ne.symm hk)]

theorem Stores.append : Stores (apply op slots) (apply op (slots ++ [some e]))
    (op.typeSlots + slots.length) (.expr e) := by
  refine .operand (by simp) fun k hk => ?_
  rcases Nat.lt_or_gt_of_ne hk with hlt | hgt
  · rw [List.getElem?_append_left hlt]
  · rw [List.getElem?_eq_none (by simpa using Nat.succ_le_of_lt hgt), List.getElem?_eq_none (Nat.le_of_lt hgt)]

theorem Stores.type (conversion : Conversion) (target : Option SequenceType) (t : SequenceType)
    (slots : List (Option Expr)) : Stores (apply (.convert conversion target) slots)
      (apply (.convert conversion (some t)) slots) 0 (.type t) := by
  refine ⟨rfl, fun j hj => ?_, by cases conversion <;> rfl, rfl⟩
  obtain ⟨j, rfl⟩ := Nat.exists_eq_succ_of_ne_zero hj
  rfl

/-! ## Attaching -/

theorem attachSlot_eq_ok_iff : attachSlot op slots j e = .ok slots' ↔
    (j < slots.length ∧ slots' = slots.set j (some e.reduce)) ∨
      (op.isGrowable = true ∧ j = slots.length ∧ slots' = slots ++ [some e.reduce]) := by
  unfold attachSlot
  split
  next hlt =>
    have hne : j ≠ slots.length := Nat.ne_of_lt hlt
    simp only [Except.ok.injEq, hlt, hne, true_and, false_and, and_false, or_false]
    exact eq_comm
  next hge =>
    have hends : (op.isGrowable && j == slots.length) = true ↔
        op.isGrowable = true ∧ j = slots.length := by simp
    split
    next hgrow =>
      obtain ⟨hop, hj⟩ := hends.1 hgrow
      simp only [Except.ok.injEq, hop, hj, Nat.lt_irrefl, true_and, false_and, false_or]
      exact eq_comm
    next hgrow =>
      refine ⟨nofun, ?_⟩
      rintro (⟨hlt, -⟩ | ⟨hop, hj, -⟩)
      · exact absurd hlt hge
      · exact absurd (hends.2 ⟨hop, hj⟩) hgrow

/-- What an expression becomes when it takes a child. -/
inductive Attached : Expr → Child → Nat → Expr → Prop
  | type (conversion : Conversion) (target : Option SequenceType) (t : SequenceType)
      (slots : List (Option Expr)) : Attached (apply (.convert conversion target) slots) (.type t) 0
        (apply (.convert conversion (some t)) slots)
  | set {op : Operator} {slots : List (Option Expr)} {j : Nat} (e : Expr) : j < slots.length →
      (op.typeSlots = 1 → j = 0) →
      Attached (apply op slots) (.expr e) (op.typeSlots + j) (apply op (slots.set j (some e.reduce)))
  | append {op : Operator} (slots : List (Option Expr)) (e : Expr) : op.isGrowable = true →
      Attached (apply op slots) (.expr e) (op.typeSlots + slots.length)
        (apply op (slots ++ [some e.reduce]))

theorem attachChild_eq_ok_iff : node.attachChild child i = .ok node' ↔ Attached node child i node' := by
  constructor
  · intro h
    unfold attachChild at h
    split at h
    next conversion target slots =>
      split at h
      · obtain rfl := Except.ok.inj h
        exact .type conversion target _ slots
      · cases h
      · obtain ⟨slots', hslots, rfl⟩ := map_eq_ok_iff.1 h
        rcases attachSlot_eq_ok_iff.1 hslots with ⟨hlt, rfl⟩ | ⟨hgrow, -, -⟩
        · exact @Attached.set (.convert conversion target) _ _ _ hlt fun _ => rfl
        · cases hgrow
      · cases h
    next => cases h
    next op slots e hop =>
      have hnone : op.typeSlots = 0 := by
        cases op with
        | convert conversion target => exact (hop conversion target rfl).elim
        | _ => rfl
      obtain ⟨slots', hslots, rfl⟩ := map_eq_ok_iff.1 h
      rw [← Nat.zero_add i, ← hnone]
      rcases attachSlot_eq_ok_iff.1 hslots with ⟨hlt, rfl⟩ | ⟨hgrow, rfl, rfl⟩
      · exact .set e hlt (by simp [hnone])
      · exact .append slots e hgrow
    next => cases h
  · rintro (_ | ⟨e, hlt, hconvert⟩ | ⟨slots, e, hgrow⟩)
    · rfl
    · rw [attachChild_operand hconvert, attachSlot_eq_ok_iff.2 (.inl ⟨hlt, rfl⟩)]
      rfl
    · rename_i op
      have hnone := Operator.typeSlots_of_isGrowable hgrow
      rw [attachChild_operand (by simp [hnone]), attachSlot_eq_ok_iff.2 (.inr ⟨hgrow, rfl, rfl⟩)]
      rfl

namespace Attached

theorem stores (h : Attached node child i node') : Stores node node' i child.reduce := by
  cases h with
  | type conversion target t slots => exact .type conversion target t slots
  | set e hlt _ => exact .set hlt
  | append slots e _ => exact .append

theorem arity_eq (h : Attached node child i node') : node'.arity =
    if node.kind.isGrowable = true ∧ i = node.arity then node.arity + 1 else node.arity := by
  cases h with
  | type conversion target t slots => cases conversion <;> rfl
  | @set op slots j e hlt _ =>
    have hne : op.typeSlots + j ≠ (apply op slots).arity := by
      rw [arity]
      omega
    rw [if_neg fun h => hne h.2]
    simp [arity]
  | @append op slots e hgrow =>
    rw [if_pos ⟨(op.isGrowable_kind).trans hgrow, rfl⟩]
    simp [arity, Nat.add_assoc]

theorem formed (h : Attached node child i node') (hnode : node.Formed) : node'.Formed := by
  intro hkind
  rw [h.stores.kind_eq] at hkind
  have hgrow : node.kind.isGrowable = false := by
    revert hkind
    cases node.kind <;> simp [ExprKind.isConversion, ExprKind.isGrowable]
  rw [h.arity_eq, if_neg (by simp [hgrow]), hnode hkind]

end Attached

theorem takes_operand_iff (hnode : (apply op slots).Formed) :
    op.kind.Takes (apply op slots).arity (.expr e) i ↔
      ∃ j, i = op.typeSlots + j ∧ (j < slots.length ∧ (op.typeSlots = 1 → j = 0) ∨
        op.isGrowable = true ∧ j = slots.length) := by
  cases op with
  | convert conversion target =>
    have hlength := hnode.length_eq
    cases conversion <;>
      simp [Operator.kind, Operator.typeSlots, Operator.isGrowable, ExprKind.Takes, hlength]
  | sequence | call | path | step | filter =>
    simp [Operator.kind, Operator.typeSlots, Operator.isGrowable, ExprKind.Takes, arity,
      Nat.le_iff_lt_or_eq]
  | _ => simp [Operator.kind, Operator.typeSlots, Operator.isGrowable, ExprKind.Takes, arity]

theorem exists_attached_iff (hnode : node.Formed) :
    (∃ node', Attached node child i node') ↔ node.kind.Takes node.arity child i := by
  constructor
  · rintro ⟨node', h⟩
    cases h with
    | type conversion target t slots => cases conversion <;> exact ⟨rfl, rfl⟩
    | set e hlt hconvert => exact (takes_operand_iff hnode).2 ⟨_, rfl, .inl ⟨hlt, hconvert⟩⟩
    | append slots e hgrow => exact (takes_operand_iff hnode).2 ⟨_, rfl, .inr ⟨hgrow, rfl⟩⟩
  · intro h
    cases child with
    | type t =>
      obtain ⟨hkind, rfl⟩ := h
      cases node with
      | apply op slots =>
        obtain ⟨conversion, target, rfl⟩ := Operator.isConversion_kind_eq_true.1 hkind
        exact ⟨_, .type conversion target t slots⟩
      | _ => cases hkind
    | expr e =>
      cases node with
      | apply op slots =>
        obtain ⟨j, rfl, ⟨hlt, hconvert⟩ | ⟨hgrow, rfl⟩⟩ := (takes_operand_iff hnode).1 h
        · exact ⟨_, .set e hlt hconvert⟩
        · exact ⟨_, .append slots e hgrow⟩
      | _ => exact h.elim

theorem code_of_attachSlot {failure : Error} (h : attachSlot op slots j e = .error failure) :
    failure.code = .XPST0003 := by
  unfold attachSlot at h
  split at h
  · cases h
  · split at h
    · cases h
    · obtain rfl := Except.error.inj h
      rfl

theorem code_of_attachChild {failure : Error} (h : node.attachChild child i = .error failure) :
    failure.code = .XPST0003 := by
  have hslot : ∀ {op : Operator} {slots : List (Option Expr)} {e : Expr} {j : Nat},
      (attachSlot op slots j e).map (apply op) = .error failure → failure.code = .XPST0003 := by
    intro op slots e j h
    cases hslots : attachSlot op slots j e with
    | ok slots' =>
      rw [hslots] at h
      cases h
    | error failure' =>
      rw [hslots] at h
      obtain rfl := Except.error.inj h
      exact code_of_attachSlot hslots
  unfold attachChild at h
  split at h
  · split at h
    · cases h
    · exact Except.error.inj h ▸ rfl
    · exact hslot h
    · exact Except.error.inj h ▸ rfl
  · exact Except.error.inj h ▸ rfl
  · exact hslot h
  · exact Except.error.inj h ▸ rfl

/-! ## Editing -/

theorem editChild_of_childAt (h : node.childAt i = some (.expr e)) :
    ∃ op slots j, node = apply op slots ∧ i = op.typeSlots + j ∧ j < slots.length ∧
      ∀ {α : Type} (edit : Expr → α × Expr), node.editChild i edit =
        .ok ((edit e).1, apply op (slots.set j (some (edit e).2.reduce))) := by
  obtain ⟨op, slots, rfl, -⟩ := childAt_eq_expr h
  obtain ⟨j, rfl, hj⟩ := childAt_eq_expr_iff.1 h
  obtain ⟨hlt, -⟩ := List.getElem?_eq_some_iff.1 hj
  refine ⟨op, slots, j, rfl, rfl, hlt, fun edit => ?_⟩
  rw [editChild_operand, editSlot, hj]
  rfl

theorem editSlot_of_vacant (op : Operator) (h : ∀ e, slots[j]? ≠ some (some e)) :
    ∃ failure : Error, failure.code = .XPST0003 ∧
      ∀ {α : Type} (edit : Expr → α × Expr), editSlot op slots j edit = .error failure := by
  refine ⟨slotError op.kind (": no attached child at slot " ++ Nat.repr j ++
    " (arity " ++ Nat.repr slots.length ++ ")"), rfl, fun edit => ?_⟩
  unfold editSlot
  split
  next e he => exact absurd he (h e)
  next => rfl

/-- Without an expression in the slot, the edit has no part in what happens. -/
theorem editChild_of_vacant (h : ∀ e, node.childAt i ≠ some (.expr e)) :
    ∃ failure : Error, failure.code = .XPST0003 ∧
      ∀ {α : Type} (edit : Expr → α × Expr), node.editChild i edit = .error failure := by
  cases node with
  | apply op slots =>
    by_cases hlt : i < op.typeSlots
    · cases op with
      | convert conversion target =>
        obtain rfl : i = 0 := Nat.lt_one_iff.1 hlt
        exact ⟨_, rfl, fun _ => rfl⟩
      | _ => simp [Operator.typeSlots] at hlt
    · obtain ⟨j, rfl⟩ := Nat.exists_eq_add_of_le (Nat.le_of_not_lt hlt)
      have hvacant : ∀ e, slots[j]? ≠ some (some e) := fun e he =>
        h e (childAt_eq_expr_iff.2 ⟨j, rfl, he⟩)
      obtain ⟨failure, hcode, hfailure⟩ := editSlot_of_vacant op hvacant
      refine ⟨failure, hcode, fun edit => ?_⟩
      rw [editChild_operand, hfailure]
      rfl
  | _ => exact ⟨_, rfl, fun _ => rfl⟩

/-! ## One slot or nothing -/

/-- A child can be attached exactly where an expression of the kind takes one, and an expression can be
edited exactly where there is one. Either way the one slot holds what was attached, or what the edit
has left, without a wrapper; the other slots, the kind and whatever else there is are as before,
and so is the number of slots, but for one more where the child was put behind the last. A failure
has the code of malformed expressions, is the same whatever edit was to be made, and changes nothing. -/
theorem one_slot_or_nothing (node : Expr) (hnode : node.Formed) (i : Nat) :
    (∀ child : Child,
      ((∃ node', node.attachChild child i = .ok node') ↔ node.kind.Takes node.arity child i) ∧
      (∀ node', node.attachChild child i = .ok node' → Stores node node' i child.reduce ∧
        node'.Formed ∧ node'.arity =
          if node.kind.isGrowable = true ∧ i = node.arity then node.arity + 1 else node.arity) ∧
      ∀ failure, node.attachChild child i = .error failure →
        failure.code = .XPST0003 ∧ (Edit.attach child i).apply node = ([.error failure], node)) ∧
    ∀ {α : Type} (edit : Expr → α × Expr),
      ((∃ edited, node.editChild i edit = .ok edited) ↔ ∃ e, node.childAt i = some (.expr e)) ∧
      (∀ a node', node.editChild i edit = .ok (a, node') →
        ∃ e, node.childAt i = some (.expr e) ∧ a = (edit e).1 ∧
          Stores node node' i (.expr (edit e).2.reduce) ∧ node'.Formed ∧ node'.arity = node.arity) ∧
      ∀ failure, node.editChild i edit = .error failure →
        failure.code = .XPST0003 ∧
        (∀ {β : Type} (other : Expr → β × Expr), node.editChild i other = .error failure) ∧
        ∀ edits, (Edit.inside i edits).apply node = ([.error failure], node) := by
  refine ⟨fun child => ⟨?_, fun node' hok => ?_, fun failure hfail => ⟨?_, ?_⟩⟩, fun {α} edit => ?_⟩
  · simp only [attachChild_eq_ok_iff]
    exact exists_attached_iff hnode
  · have hattached := attachChild_eq_ok_iff.1 hok
    exact ⟨hattached.stores, hattached.formed hnode, hattached.arity_eq⟩
  · exact code_of_attachChild hfail
  · rw [Edit.apply, hfail]
  · by_cases hchild : ∃ e, node.childAt i = some (.expr e)
    · obtain ⟨e, he⟩ := hchild
      obtain ⟨op, slots, j, rfl, rfl, hlt, hedit⟩ := editChild_of_childAt he
      refine ⟨⟨fun _ => ⟨e, he⟩, fun _ => ⟨_, hedit edit⟩⟩, fun a node' hok => ?_, fun failure hfail => ?_⟩
      · obtain ⟨rfl, rfl⟩ := Prod.mk.inj (Except.ok.inj ((hedit edit).symm.trans hok))
        have harity : (apply op (slots.set j (some (edit e).2.reduce))).arity = (apply op slots).arity := by
          simp [arity]
        exact ⟨e, he, rfl, .set hlt, fun hkind => harity.trans (hnode hkind), harity⟩
      · rw [hedit edit] at hfail
        cases hfail
    · obtain ⟨failure, hcode, hfailure⟩ := editChild_of_vacant fun e he => hchild ⟨e, he⟩
      refine ⟨⟨?_, fun h => absurd h hchild⟩, fun a node' hok => ?_, fun failure' hfail => ?_⟩
      · rintro ⟨edited, hok⟩
        rw [hfailure edit] at hok
        cases hok
      · rw [hfailure edit] at hok
        cases hok
      · obtain rfl := Except.error.inj ((hfailure edit).symm.trans hfail)
        exact ⟨hcode, hfailure, fun edits => by rw [Edit.apply, hfailure]⟩

/-- A third item for a comma sequence, another one for its second, and a child where a cast has its
type. -/
theorem one_slot_or_nothing_sequence :
    let node := sequence [var "a", var "b"]
    let seven := parenthesized (integer 7)
    let edit := fun e : Expr => (e.kind, seven)
    node.Formed ∧ (emptyConvert .cast).Formed ∧
      (∃ node', node.attachChild (.expr seven) 2 = .ok node' ∧
        Stores node node' 2 (.expr (integer 7)) ∧ node'.arity = 3) ∧
      (∃ node', node.editChild 1 edit = .ok (.varRef, node') ∧
        Stores node node' 1 (.expr (integer 7)) ∧ node'.arity = 2) ∧
      ∃ failure, (emptyConvert .cast).attachChild (.expr seven) 0 = .error failure ∧
        failure.code = .XPST0003 ∧
        (Edit.attach (.expr seven) 0).apply (emptyConvert .cast) =
          ([.error failure], emptyConvert .cast) := by
  intro node seven edit
  have hnode : node.Formed := formed_of_isConversion rfl
  have hcast := (formed_conversion .cast (.atomic "integer" .one) seven).1
  obtain ⟨-, hattached, -⟩ := (one_slot_or_nothing node hnode 2).1 (.expr seven)
  obtain ⟨-, hedited, -⟩ := (one_slot_or_nothing node hnode 1).2 edit
  obtain ⟨-, -, hfailed⟩ := (one_slot_or_nothing _ hcast 0).1 (.expr seven)
  obtain ⟨hstores, -, harity⟩ := hattached _ rfl
  obtain ⟨e, -, -, hstores', -, harity'⟩ := hedited _ _ rfl
  obtain ⟨hcode, hunchanged⟩ := hfailed _ rfl
  exact ⟨hnode, hcast, ⟨_, rfl, hstores, harity⟩, ⟨_, rfl, hstores', harity'⟩, _, rfl, hcode, hunchanged⟩

end Expr

end Grove

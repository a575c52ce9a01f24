/-
No slot holds a mere wrapper. Whatever puts an expression into a slot takes one wrapper off it
(`Expr.reduce`), and one is enough: below the wrapper there is a slot again, so what comes to light
was put there the same way. What an edit leaves in a slot is reduced once more, so that it does
not matter when a wrapper got its child: a vacant one may stand in a slot, and be filled there.

`Expr.Obtainable` is everything that can be made by building, attaching, editing and copying. An
edit may do with the child whatever makes something obtainable of it; that edits within edits do
so is `Edit.Built.apply`.
-/
import Grove.Expr.Edit

namespace Grove

namespace Expr

variable {e root node node' : Expr} {op : Operator} {slots slots' : List (Option Expr)}

/-- A parenthesised expression or a comma sequence with exactly one slot, which is filled. -/
def IsWrapped (e : Expr) : Prop := ∃ op child, op.isWrapper = true ∧ e = apply op [some child]

/-- The expression is in a slot of the other, at some depth. -/
inductive Stored (e : Expr) : Expr → Prop
  | here {op : Operator} {slots : List (Option Expr)} : some e ∈ slots → Stored e (apply op slots)
  | deeper {op : Operator} {slots : List (Option Expr)} {child : Expr} : some child ∈ slots →
      Stored e child → Stored e (apply op slots)

/-- Expressions that can be had. The constructors here allow for any number of children, so that one
stands for all that build alike. -/
inductive Obtainable : Expr → Prop
  | literal (value : Literal) : Obtainable (literal value)
  | contextItem : Obtainable contextItem
  | varRef (name : QName) : Obtainable (varRef name)
  /-- So is all that `parenthesized`, `sequence`, `binary`, `unary`, `ifThenElse`, `convert`,
  `call`, `path`, `step` and `filter` build. -/
  | build (op : Operator) {es : List Expr} : (∀ e ∈ es, Obtainable e) →
      Obtainable (apply op (filled es))
  /-- So are `emptyParenthesized`, `emptyBinary` and `emptyConvert`. -/
  | vacant (op : Operator) (n : Nat) : Obtainable (apply op (List.replicate n none))
  | attach {node node' : Expr} {child : Child} {i : Nat} : Obtainable node →
      (∀ e, child = .expr e → Obtainable e) → node.attachChild child i = .ok node' →
      Obtainable node'
  /-- The edit makes something obtainable of the child that is there. -/
  | edit {α : Type} {node node' : Expr} {i : Nat} {edit : Expr → α × Expr} {a : α} :
      Obtainable node → (∀ e, node.childAt i = some (.expr e) → Obtainable (edit e).2) →
      node.editChild i edit = .ok (a, node') → Obtainable node'
  /-- Slots are taken out of parentheses or a comma sequence and put into the other. -/
  | rewrap {op op' : Operator} {slots : List (Option Expr)} : Obtainable (apply op slots) →
      op.isWrapper = true → op'.isWrapper = true → Obtainable (apply op' slots)
  /-- A sign, a name, an axis or the like is changed and the slots stay. -/
  | revise {op op' : Operator} {slots : List (Option Expr)} : Obtainable (apply op slots) →
      op'.kind = op.kind → Obtainable (apply op' slots)
  /-- A child is copied. -/
  | child {op : Operator} {slots : List (Option Expr)} {e : Expr} : Obtainable (apply op slots) →
      some e ∈ slots → Obtainable e

/-! ## What looking up, attaching and editing come to -/

theorem childAt_eq_expr {i : Nat} (h : node.childAt i = some (.expr e)) :
    ∃ op slots, node = apply op slots ∧ some e ∈ slots := by
  have hmem : ∀ {slots : List (Option Expr)} {j : Nat},
      (slots[j]?.join).map Child.expr = some (.expr e) → some e ∈ slots := by
    intro slots j hj
    obtain ⟨e', he', heq⟩ := Option.map_eq_some_iff.1 hj
    obtain rfl := Child.expr.inj heq
    exact List.mem_of_getElem? (Option.join_eq_some_iff.1 he')
  unfold childAt at h
  split at h
  next => simp at h
  next => exact ⟨_, _, rfl, hmem h⟩
  next => exact ⟨_, _, rfl, hmem h⟩
  next => cases h

theorem attachSlot_eq_ok {i : Nat} (h : attachSlot op slots i e = .ok slots') :
    slots' = slots.set i (some e.reduce) ∨ slots' = slots ++ [some e.reduce] := by
  unfold attachSlot at h
  split at h
  · exact .inl (Except.ok.inj h).symm
  · split at h
    · exact .inr (Except.ok.inj h).symm
    · cases h

theorem attachChild_eq_ok {child : Child} {i : Nat} (h : node.attachChild child i = .ok node') :
    (∃ conversion target t slots, node = apply (.convert conversion target) slots ∧
      child = .type t ∧ node' = apply (.convert conversion (some t)) slots) ∨
    ∃ op slots e j slots', node = apply op slots ∧ child = .expr e ∧
      attachSlot op slots j e = .ok slots' ∧ node' = apply op slots' := by
  unfold attachChild at h
  split at h
  next conversion target slots =>
    split at h
    · exact .inl ⟨conversion, target, _, slots, rfl, rfl, (Except.ok.inj h).symm⟩
    · cases h
    · obtain ⟨slots', hslots, rfl⟩ := map_eq_ok_iff.1 h
      exact .inr ⟨_, slots, _, 0, slots', rfl, rfl, hslots, rfl⟩
    · cases h
  next => cases h
  next op slots e _ =>
    obtain ⟨slots', hslots, rfl⟩ := map_eq_ok_iff.1 h
    exact .inr ⟨op, slots, e, i, slots', rfl, rfl, hslots, rfl⟩
  next => cases h

theorem editSlot_eq_ok {α : Type} {i : Nat} {edit : Expr → α × Expr} {a : α}
    (h : editSlot op slots i edit = .ok (a, slots')) :
    ∃ e, slots[i]? = some (some e) ∧ slots' = slots.set i (some (edit e).2.reduce) := by
  unfold editSlot at h
  split at h
  next e he =>
    exact ⟨e, he, (congrArg Prod.snd (Except.ok.inj h)).symm⟩
  next => cases h

theorem editChild_eq_ok {α : Type} {i : Nat} {edit : Expr → α × Expr} {a : α}
    (h : node.editChild i edit = .ok (a, node')) :
    ∃ op slots j e, node = apply op slots ∧ slots[j]? = some (some e) ∧
      node.childAt i = some (.expr e) ∧
      node' = apply op (slots.set j (some (edit e).2.reduce)) := by
  unfold editChild at h
  split at h
  next => cases h
  next conversion target slots j =>
    obtain ⟨⟨a', slots'⟩, hslots, hnode⟩ := map_eq_ok_iff.1 h
    obtain rfl := congrArg Prod.snd hnode
    obtain ⟨e, he, rfl⟩ := editSlot_eq_ok hslots
    exact ⟨_, slots, j, e, rfl, he, by simp [childAt, he], rfl⟩
  next op slots _ _ =>
    obtain ⟨⟨a', slots'⟩, hslots, hnode⟩ := map_eq_ok_iff.1 h
    obtain rfl := congrArg Prod.snd hnode
    obtain ⟨e, he, rfl⟩ := editSlot_eq_ok hslots
    refine ⟨op, slots, i, e, rfl, he, ?_, rfl⟩
    unfold childAt
    split <;> simp_all
  next => cases h

/-! ## Tidy expressions -/

/-- No slot holds a mere wrapper, at any depth. -/
def Tidy (root : Expr) : Prop := ∀ e, Stored e root → ¬e.IsWrapped

/-- What may stand in a slot of a tidy expression. -/
def Neat (e : Expr) : Prop := ¬e.IsWrapped ∧ e.Tidy

theorem tidy_apply_iff : (apply op slots).Tidy ↔ ∀ e, some e ∈ slots → e.Neat := by
  constructor
  · intro h e he
    exact ⟨h e (.here he), fun e' he' => h e' (.deeper he he')⟩
  · intro h e he
    cases he with
    | here he => exact (h e he).1
    | deeper hchild he => exact (h _ hchild).2 e he

/-- Below the wrapper that is taken off there is no other. -/
theorem Tidy.neat_reduce (h : e.Tidy) : e.reduce.Neat := by
  unfold reduce
  split
  next op child =>
    split
    next => exact tidy_apply_iff.1 h child List.mem_cons_self
    next hop =>
      refine ⟨?_, h⟩
      rintro ⟨op', child', hop', heq⟩
      obtain ⟨rfl, -⟩ := Expr.apply.inj heq
      exact hop hop'
  next hother =>
    refine ⟨?_, h⟩
    rintro ⟨op, child, -, rfl⟩
    exact hother op child rfl

theorem tidy_filled {es : List Expr} (h : ∀ e ∈ es, e.Tidy) : (apply op (filled es)).Tidy := by
  refine tidy_apply_iff.2 fun e he => ?_
  obtain ⟨e', he', hreduce⟩ := List.mem_map.1 he
  rw [← Option.some.inj hreduce]
  exact (h e' he').neat_reduce

theorem Tidy.set (h : (apply op slots).Tidy) (he : e.Tidy) (i : Nat) :
    (apply op (slots.set i (some e.reduce))).Tidy := by
  refine tidy_apply_iff.2 fun e' he' => ?_
  rcases List.mem_or_eq_of_mem_set he' with hold | hnew
  · exact tidy_apply_iff.1 h e' hold
  · rw [Option.some.inj hnew]
    exact he.neat_reduce

theorem Tidy.append (h : (apply op slots).Tidy) (he : e.Tidy) :
    (apply op (slots ++ [some e.reduce])).Tidy := by
  refine tidy_apply_iff.2 fun e' he' => ?_
  rcases List.mem_append.1 he' with hold | hnew
  · exact tidy_apply_iff.1 h e' hold
  · rw [Option.some.inj (List.mem_singleton.1 hnew)]
    exact he.neat_reduce

theorem Tidy.attachChild {child : Child} {i : Nat} (h : node.Tidy)
    (hchild : ∀ e, child = .expr e → e.Tidy) (hok : node.attachChild child i = .ok node') :
    node'.Tidy := by
  rcases attachChild_eq_ok hok with ⟨conversion, target, t, slots, rfl, -, rfl⟩ |
    ⟨op, slots, e, j, slots', rfl, rfl, hslots, rfl⟩
  · exact tidy_apply_iff.2 (tidy_apply_iff.1 h)
  · rcases attachSlot_eq_ok hslots with rfl | rfl
    · exact h.set (hchild e rfl) j
    · exact h.append (hchild e rfl)

theorem Tidy.editChild {α : Type} {i : Nat} {edit : Expr → α × Expr} {a : α} (h : node.Tidy)
    (hedit : ∀ e, node.childAt i = some (.expr e) → (edit e).2.Tidy)
    (hok : node.editChild i edit = .ok (a, node')) : node'.Tidy := by
  obtain ⟨op, slots, j, e, rfl, -, hchild, rfl⟩ := editChild_eq_ok hok
  exact h.set (hedit e hchild) j

/-! ## What can be had is tidy -/

theorem Obtainable.tidy (h : Obtainable e) : e.Tidy := by
  induction h with
  | literal | contextItem | varRef => exact fun _ he => nomatch he
  | build op _ ih => exact tidy_filled ih
  | vacant op n =>
    exact tidy_apply_iff.2 fun e he => nomatch List.eq_of_mem_replicate he
  | attach _ _ hok ihnode ihchild => exact ihnode.attachChild ihchild hok
  | edit _ _ hok ihnode ihedit => exact ihnode.editChild ihedit hok
  | rewrap _ _ _ ih | revise _ _ ih => exact tidy_apply_iff.2 (tidy_apply_iff.1 ih)
  | child _ he ih => exact (tidy_apply_iff.1 ih _ he).2

/-! ## Edits within edits -/

theorem Obtainable.of_childAt {i : Nat} (h : Obtainable node)
    (he : node.childAt i = some (.expr e)) : Obtainable e := by
  obtain ⟨op, slots, rfl, hmem⟩ := childAt_eq_expr he
  exact h.child hmem

/-- An edit may be anything that makes of what can be had what can be had. -/
theorem Obtainable.editChild {α : Type} {i : Nat} {edit : Expr → α × Expr} {a : α}
    (h : Obtainable node) (hedit : ∀ e, Obtainable e → Obtainable (edit e).2)
    (hok : node.editChild i edit = .ok (a, node')) : Obtainable node' :=
  .edit h (fun e he => hedit e (h.of_childAt he)) hok

end Expr

/-- What an edit puts in can be had. -/
inductive Edit.Built : Edit → Prop
  | replace {e : Expr} : e.Obtainable → Built (.replace e)
  | attach {child : Child} (slot : Nat) : (∀ e, child = .expr e → e.Obtainable) →
      Built (.attach child slot)
  | inside (slot : Nat) {edits : List Edit} : (∀ edit ∈ edits, Built edit) →
      Built (.inside slot edits)

theorem obtainable_applyEdits {e : Expr} {edits : List Edit}
    (h : ∀ edit ∈ edits, ∀ e : Expr, e.Obtainable → (edit.apply e).2.Obtainable)
    (he : e.Obtainable) : (applyEdits edits e).2.Obtainable := by
  induction edits generalizing e with
  | nil => exact he
  | cons edit edits ih =>
    obtain ⟨hedit, hedits⟩ := List.forall_mem_cons.1 h
    exact ih hedits (hedit e he)

theorem Edit.Built.apply {e : Expr} {edit : Edit} (h : edit.Built) (he : e.Obtainable) :
    (edit.apply e).2.Obtainable := by
  induction h generalizing e with
  | replace hnew => exact hnew
  | attach slot hchild =>
    rw [Edit.apply]
    split
    next hok => exact .attach he hchild hok
    next => exact he
  | inside slot _ ih =>
    rw [Edit.apply]
    split
    next hok => exact he.editChild (fun child => obtainable_applyEdits ih) hok
    next => exact he

namespace Expr

/-- In no slot of an expression that can be had, at any depth, there is a mere wrapper. -/
theorem Obtainable.no_wrapper_stored {root e : Expr} (h : Obtainable root) (he : Stored e root) :
    ¬e.IsWrapped := h.tidy e he

/-- A comma sequence with a vacant slot is put under a cast, and is filled where it stands. -/
theorem Obtainable.no_wrapper_stored_filled_later :
    let seven := integer 7
    let before := apply (.convert .cast none) [some (apply .sequence [none])]
    let after := apply (.convert .cast none) [some seven]
    (emptyConvert .cast).attachChild (.expr (apply .sequence [none])) 1 = .ok before ∧
      (Edit.inside 1 [.attach (.expr (parenthesized seven)) 0]).apply before =
        ([.ok (), .ok ()], after) ∧
      Obtainable after ∧ Stored seven after ∧ ¬seven.IsWrapped := by
  intro seven before after
  have hempty : Obtainable (emptyConvert .cast) := .vacant (.convert .cast none) 1
  have hsequence : Obtainable (apply .sequence [none]) := .vacant .sequence 1
  have hbefore : Obtainable before :=
    .attach (i := 1) hempty (fun e he => Child.expr.inj he ▸ hsequence) rfl
  have hseven : Obtainable (parenthesized seven) :=
    .build .parenthesized (by simpa using .literal _)
  have hedit : (Edit.inside 1 [.attach (.expr (parenthesized seven)) 0]).Built :=
    .inside 1 (by simpa using .attach 0 (fun e he => Child.expr.inj he ▸ hseven))
  have hafter : Obtainable after := hedit.apply hbefore
  have hstored : Stored seven after := .here List.mem_cons_self
  exact ⟨rfl, rfl, hafter, hstored, hafter.no_wrapper_stored hstored⟩

end Expr

end Grove

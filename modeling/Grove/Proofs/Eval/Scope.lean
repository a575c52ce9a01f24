/-
Scopes. A scope puts an entry on the stack of the context, and when it ends the stack is cut down to
the depth it had before. That undoes what was put on, but brings nothing back: the work within
may take off its own entry and go on to those below. So the stack is as before only if none of
these was taken off (`Context.within_restores_iff`), however often the work pushes and whatever
scopes it opens itself.

Stacks are followed by sketches: what was put on since some moment, and how many of the entries
of that moment are left below. What operations do to a sketch does not depend on the entries, so
one sketch stands for all stacks of a depth.
-/
import Mathlib.Data.List.Basic
import Grove.Eval.Context

namespace Grove

/-- What is done to the focus of a context. -/
inductive FocusOp where
  | push (focus : Focus)
  | pop
  /-- Operations within a scope. -/
  | scope (focus : Focus) (ops : List FocusOp)

mutual

def FocusOp.apply : FocusOp → Context → Context
  | .push focus, c => c.push focus
  | .pop, c => c.pop.2
  | .scope focus ops, c => (c.within focus fun c => ((), applyFocusOps ops c)).2
  termination_by structural op => op

/-- Operations on a focus, in order. -/
def applyFocusOps : List FocusOp → Context → Context
  | [], c => c
  | op :: ops, c => applyFocusOps ops (op.apply c)
  termination_by structural ops => ops

end

/-- A stack of focus entries, as it comes from another. -/
structure FocusSketch where
  /-- The entries put on, the innermost first. -/
  added : List Focus
  /-- How many entries of the other stack are left below them. -/
  kept : Nat

namespace FocusSketch

/-- Nothing is put on, and all of so many entries are left. -/
def whole (depth : Nat) : FocusSketch := ⟨[], depth⟩

def depth (k : FocusSketch) : Nat := k.added.length + k.kept

def push (k : FocusSketch) (focus : Focus) : FocusSketch := { k with added := focus :: k.added }

def pop (k : FocusSketch) : FocusSketch :=
  match k.added with
  | [] => { k with kept := k.kept - 1 }
  | _ :: added => { k with added }

def truncate (k : FocusSketch) (depth : Nat) : FocusSketch :=
  ⟨k.added.drop (k.depth - depth), min k.kept depth⟩

/-- The stack over the entries that are left of the other. -/
def above (k : FocusSketch) (base : List Focus) : List Focus :=
  k.added ++ base.drop (base.length - k.kept)

end FocusSketch

mutual

/-- What an operation does to a sketch. -/
def FocusOp.trace : FocusOp → FocusSketch → FocusSketch
  | .push focus, k => k.push focus
  | .pop, k => k.pop
  | .scope focus ops, k => (traceFocusOps ops (k.push focus)).truncate k.depth
  termination_by structural op => op

def traceFocusOps : List FocusOp → FocusSketch → FocusSketch
  | [], k => k
  | op :: ops, k => traceFocusOps ops (op.trace k)
  termination_by structural ops => ops

end

/-! ## Sketches follow stacks -/

/-- The sketch shows how the focus of a context comes from the one of a base. -/
structure Context.Traced (base : Context) (k : FocusSketch) (c : Context) : Prop where
  kept_le : k.kept ≤ base.depth
  focus_eq : c.focus = k.above base.focus

namespace Context.Traced

variable {base c : Context} {k : FocusSketch}

theorem whole (c : Context) : Traced c (.whole c.depth) c :=
  ⟨Nat.le_refl _, by simp [FocusSketch.above, FocusSketch.whole, depth]⟩

theorem depth_eq (h : Traced base k c) : c.depth = k.depth := by
  have hkept := h.kept_le
  rw [depth, h.focus_eq, FocusSketch.above, FocusSketch.depth, List.length_append, List.length_drop]
  unfold depth at hkept
  omega

theorem push (h : Traced base k c) (focus : Focus) : Traced base (k.push focus) (c.push focus) :=
  ⟨h.kept_le, congrArg (focus :: ·) h.focus_eq⟩

theorem focus_pop (c : Context) : c.pop.2.focus = c.focus.tail := by
  unfold pop
  split <;> simp_all

theorem pop (h : Traced base k c) : Traced base k.pop c.pop.2 := by
  have hkept : k.kept ≤ base.focus.length := h.kept_le
  unfold FocusSketch.pop
  cases hadded : k.added with
  | nil =>
    refine ⟨Nat.le_trans (Nat.sub_le ..) hkept, ?_⟩
    rw [focus_pop, h.focus_eq, FocusSketch.above, FocusSketch.above, hadded, List.nil_append,
      List.nil_append, List.tail_drop]
    cases hk : k.kept with
    | zero => simp
    | succ n =>
      have hnext : base.focus.length - (n + 1) + 1 = base.focus.length - n := by omega
      rw [hnext, Nat.add_sub_cancel]
  | cons focus added =>
    refine ⟨hkept, ?_⟩
    rw [focus_pop, h.focus_eq, FocusSketch.above, hadded]
    rfl

theorem truncate (h : Traced base k c) (depth : Nat) :
    Traced base (k.truncate depth) (c.truncate depth) := by
  have hkept : k.kept ≤ base.focus.length := h.kept_le
  have hlength : c.focus.length = k.added.length + k.kept := h.depth_eq
  refine ⟨Nat.le_trans (Nat.min_le_left ..) hkept, ?_⟩
  have hbelow : base.focus.length - k.kept + (k.added.length + k.kept - depth - k.added.length) =
      base.focus.length - min k.kept depth := by omega
  rw [Context.truncate, hlength, h.focus_eq, FocusSketch.above, FocusSketch.above,
    FocusSketch.truncate, FocusSketch.depth, List.drop_append, List.drop_drop, hbelow]

end Context.Traced

open Context (Traced)

mutual

theorem Context.Traced.apply {base c : Context} {k : FocusSketch} (h : Traced base k c) :
    ∀ op : FocusOp, Traced base (op.trace k) (op.apply c)
  | .push focus => h.push focus
  | .pop => h.pop
  | .scope focus ops => by
    have hinside := (h.push focus).applyFocusOps ops
    rw [FocusOp.trace, ← h.depth_eq]
    exact hinside.truncate c.depth
  termination_by structural op => op

theorem Context.Traced.applyFocusOps {base c : Context} {k : FocusSketch} (h : Traced base k c) :
    ∀ ops : List FocusOp, Traced base (traceFocusOps ops k) (applyFocusOps ops c)
  | [] => h
  | op :: ops => (h.apply op).applyFocusOps ops
  termination_by structural ops => ops

end

/-! ## Which sketches are of the stack as it was -/

namespace FocusSketch

variable {k : FocusSketch} {d : Nat}

theorem depth_truncate_le (k : FocusSketch) (d : Nat) : (k.truncate d).depth ≤ d := by
  simp only [truncate, depth, List.length_drop]
  omega

theorem above_of_kept_eq (hdepth : k.depth ≤ d) (hkept : k.kept = d) {base : List Focus}
    (hbase : base.length = d) : k.above base = base := by
  have hadded : k.added = [] := by
    rw [depth] at hdepth
    exact List.eq_nil_of_length_eq_zero (by omega)
  simp [above, hadded, hkept, hbase]

/-- Nothing that was put on is on two stacks without a common entry. -/
theorem added_eq_nil (h : ∀ base : List Focus, base.length = d → k.above base = base) :
    k.added = [] := by
  let base (i : Nat) : List Focus := List.replicate d ⟨.boolean false, i, 0⟩
  cases hadded : k.added with
  | nil => rfl
  | cons focus added =>
    have hposition (i : Nat) : focus.position = i := by
      have hmem : focus ∈ k.above (base i) := by simp [above, hadded]
      rw [h (base i) List.length_replicate] at hmem
      rw [List.eq_of_mem_replicate hmem]
    exact absurd ((hposition 0).symm.trans (hposition 1)) Nat.zero_ne_one

/-- What a sketch makes of the focus of contexts is that focus only if all of it is left. -/
theorem restores_iff (hdepth : k.depth ≤ d) {left : Context → List Focus}
    (hleft : ∀ c : Context, c.depth = d → left c = k.above c.focus) :
    (∀ c : Context, c.depth = d → left c = c.focus) ↔ k.kept = d := by
  constructor
  · intro h
    have habove (base : List Focus) (hbase : base.length = d) : k.above base = base :=
      (hleft { focus := base } hbase).symm.trans (h { focus := base } hbase)
    have hadded := added_eq_nil habove
    have hlength := congrArg List.length (habove (.replicate d ⟨.boolean false, 1, 1⟩)
      List.length_replicate)
    simp only [depth, hadded, List.length_nil] at hdepth
    simp only [above, hadded, List.nil_append, List.length_drop, List.length_replicate] at hlength
    omega
  · intro hkept c hc
    rw [hleft c hc, above_of_kept_eq hdepth hkept hc]

end FocusSketch

/-- Work in a scope over a stack of some depth leaves the stack as it was, whatever is on it, if
and only if it takes off none of the entries from before the scope. -/
theorem Context.within_restores_iff (focus : Focus) (ops : List FocusOp) (d : Nat) :
    (∀ c : Context, c.depth = d →
      (c.within focus fun inner => ((), applyFocusOps ops inner)).2.focus = c.focus) ↔
    (traceFocusOps ops ((FocusSketch.whole d).push focus)).kept = d := by
  let k := traceFocusOps ops ((FocusSketch.whole d).push focus)
  have hinside (c : Context) (hc : c.depth = d) :
      Traced c k (applyFocusOps ops (c.push focus)) := by
    subst hc
    exact ((Traced.whole c).push focus).applyFocusOps ops
  have hended (c : Context) (hc : c.depth = d) :
      (c.within focus fun inner => ((), applyFocusOps ops inner)).2.focus =
        (k.truncate d).above c.focus := by
    show ((applyFocusOps ops (c.push focus)).truncate c.depth).focus = _
    rw [hc]
    exact ((hinside c hc).truncate d).focus_eq
  have hkept : k.kept ≤ d := by
    have hdepth : Context.depth { focus := List.replicate d focus } = d := List.length_replicate
    exact hdepth ▸ (hinside _ hdepth).kept_le
  rw [FocusSketch.restores_iff (k.depth_truncate_le d) hended, FocusSketch.truncate,
    Nat.min_eq_left hkept]

/-- The work may take off its own entry and leave others, and so may a scope within. -/
theorem Context.within_restores_iff_unbalanced :
    let inner : Focus := ⟨.string "inner", 1, 1⟩
    let other : Focus := ⟨.string "other", 2, 3⟩
    let ops : List FocusOp := [.pop, .push other, .scope inner [.pop, .pop], .push other, .push inner]
    (traceFocusOps ops ((FocusSketch.whole 1).push inner)).kept = 1 ∧
      ∀ c : Context, c.depth = 1 →
        (c.within inner fun c => ((), applyFocusOps ops c)).2.focus = c.focus := by
  intro inner other ops
  have hkept : (traceFocusOps ops ((FocusSketch.whole 1).push inner)).kept = 1 := rfl
  exact ⟨hkept, (within_restores_iff inner ops 1).2 hkept⟩

/-- An entry from before the scope that was taken off is gone, and another may be in its place. -/
theorem Context.within_loses_popped :
    let outer : Focus := ⟨.string "outer", 1, 1⟩
    let inner : Focus := ⟨.string "inner", 1, 1⟩
    let other : Focus := ⟨.string "other", 1, 1⟩
    let c : Context := { focus := [outer] }
    (c.within inner fun c => ((), applyFocusOps [.pop, .pop] c)).2.focus = [] ∧
    (c.within inner fun c => ((), applyFocusOps [.pop, .pop, .push other] c)).2.focus = [other] ∧
    [] ≠ c.focus ∧ [other] ≠ c.focus := by
  intro outer inner other c
  refine ⟨rfl, rfl, nofun, fun h => ?_⟩
  have hitem : Value.string "other" = .string "outer" := congrArg Focus.item (List.cons.inj h).1
  exact absurd (Value.string.inj hitem) (by decide)

end Grove

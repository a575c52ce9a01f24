/-
Functions and the stack of focus entries. A function is handed the whole stack, and what it makes of
it is its own affair. What is asked here is whether the functions of a registry tell two stacks apart
that are related in some way (`FunctionRegistry.Respects`). Functions may call each other, so it is
asked of one of them as far as the others do not (`Function.Respects`), and by induction on how deep
calls may nest none of them does (`FunctionRegistry.All.respects`).

Two relations are of use. Stacks with the same innermost entry (`SameTop`) are all the same to the
built-in functions. A stack with an entry on it once more (`Repeats`) is what an expression is
evaluated in that was put off. How often an entry is there is no part of what an expression is about,
and functions that are pure in this sense, that take such a stack for the one without that entry, are
steady (`FunctionRegistry.Steady`): those that go by their arguments, the variables and the innermost
entry (`Function.respects_of_innermost`), and those too that look for an entry further below. One that
counts the entries is not.
-/
import Grove.Proofs.Eval.Resolution

namespace Grove

/-! ## Relations of stacks -/

/-- Related stacks have the same innermost entry, and are related with another entry on top. -/
class FocusRelation (R : List Focus → List Focus → Prop) : Prop where
  head?_eq : ∀ {s t}, R s t → s.head? = t.head?
  push : ∀ {s t} (focus : Focus), R s t → R (focus :: s) (focus :: t)

instance : FocusRelation Eq where
  head?_eq h := congrArg List.head? h
  push focus h := congrArg (focus :: ·) h

/-- Stacks with the same innermost entry, or without any. -/
def SameTop (s t : List Focus) : Prop := s.head? = t.head?

instance : FocusRelation SameTop where
  head?_eq h := h
  push _ _ := rfl

/-- One of the entries of a stack is there once more. -/
inductive Repeats : List Focus → List Focus → Prop
  | again (focus : Focus) (s : List Focus) : Repeats (focus :: focus :: s) (focus :: s)
  | push {s t : List Focus} (focus : Focus) : Repeats s t → Repeats (focus :: s) (focus :: t)

instance : FocusRelation Repeats where
  head?_eq h := by cases h <;> rfl
  push focus h := .push focus h

/-! ## Functions that do not tell stacks apart -/

variable {R : List Focus → List Focus → Prop} {r : FunctionRegistry} {p : Function → Prop}

/-- No function, called in two settings that differ in related stacks, tells them apart. -/
def FunctionView.Respects (R : List Focus → List Focus → Prop) (v : FunctionView) : Prop :=
  ∀ name arity ns run, v.resolve name arity ns = .ok run →
    ∀ (s : Setting) focus args, R s.focus focus → run s args = run { s with focus } args

/-- The function does not tell related stacks apart if the functions that it may call do not. -/
def Function.Respects (R : List Focus → List Focus → Prop) (run : Function) : Prop :=
  ∀ (s : CallSite) focus args, s.functions.Respects R → R s.focus focus →
    run s args = run { s with focus } args

/-- A function that goes by the innermost entry, whatever else but the stack it reads. -/
theorem Function.respects_of_innermost [FocusRelation R] {run : Function}
    (h : ∀ (s : CallSite) focus args, s.focus.head? = focus.head? →
      run s args = run { s with focus } args) : run.Respects R :=
  fun s focus args _ hfocus => h s focus args (FocusRelation.head?_eq hfocus)

namespace FunctionRegistry

/-- No function of the registry, called in the course of an evaluation, tells related stacks
apart. -/
def Respects (R : List Focus → List Focus → Prop) (r : FunctionRegistry) : Prop :=
  ∀ name arity ns run, r.resolve name arity ns = .ok run →
    ∀ (c : Context) f focus args, c.functions = r → R c.focus focus →
      run (c.site f) args = run (Context.site { c with focus } f) args

/-- The functions of the registry are pure as far as the focus goes: it makes no difference to them
that an entry is there once more. -/
def Steady (r : FunctionRegistry) : Prop := r.Respects Repeats

/-- All functions of a registry have a property. -/
def All (p : Function → Prop) (r : FunctionRegistry) : Prop :=
  ∀ name overloads, Table.get? r name = some overloads → ∀ o ∈ overloads, p o.run

namespace All

theorem empty : All p .empty := by simp [All]

theorem register (h : r.All p) (name : ExpandedName) (minArity : Nat) (maxArity : Option Nat)
    {run : Function} (hrun : p run) : All p (r.register name minArity maxArity run) := by
  intro other overloads hget
  rcases Table.eq_some_of_insert hget with ⟨-, rfl⟩ | hget
  · intro o ho
    rcases List.mem_cons.1 ((Overload.perm_insertInto _ _).subset ho) with rfl | ho
    · exact hrun
    · cases hold : Table.get? r name with
      | none => simp [hold] at ho
      | some os => exact h name os hold o (by simpa [hold] using ho)
  · exact h other overloads hget

theorem ofHistory {history : List Registration} (h : ∀ g ∈ history, p g.overload.run) :
    All p (ofHistory history) := by
  induction history using List.reverseRecOn with
  | nil => exact empty
  | append_singleton history g ih =>
    rw [ofHistory_append]
    exact (ih fun g hg => h g (List.mem_append_left _ hg)).register _ _ _ (h g (by simp))

theorem of_resolve (h : r.All p) {name : ExpandedName} {arity : Nat} {ns : Option String}
    {run : Function} (hresolve : r.resolve name arity ns = .ok run) : p run := by
  have hfound {os : List Overload} {o : Overload} (hos : ∀ o ∈ os, p o.run)
      (ho : os.find? (·.accepts arity) = some o) : p o.run := hos o (List.mem_of_find?_eq_some ho)
  unfold resolve at hresolve
  split at hresolve
  next o ho =>
    obtain rfl := Except.ok.inj hresolve
    cases hget : Table.get? r name with
    | none => simp [hget] at ho
    | some os => exact hfound (h name os hget) (by simpa [hget] using ho)
  next =>
    dsimp only at hresolve
    split at hresolve
    next => cases hresolve
    next os hos =>
      split at hresolve
      next o ho =>
        obtain rfl := Except.ok.inj hresolve
        rcases Option.or_eq_some_iff.1 hos with hget | ⟨-, hget⟩
        · exact hfound (h _ os hget) ho
        · exact hfound (h _ os hget) ho
      next => cases hresolve

end All

theorem All.respects_view (h : r.All (Function.Respects R)) (f : Forest) :
    ∀ depth, (r.view f depth).Respects R
  | 0 => by
    intro name arity ns run hrun s focus args _
    obtain ⟨_, -, rfl⟩ := map_eq_ok_iff.1 hrun
    rfl
  | depth + 1 => by
    intro name arity ns run hrun s focus args hfocus
    obtain ⟨called, hcalled, rfl⟩ := map_eq_ok_iff.1 hrun
    exact h.of_resolve hcalled _ focus args (h.respects_view f depth) hfocus

/-- Where no function tells related stacks apart as long as the others do not, none does. -/
theorem All.respects (h : r.All (Function.Respects R)) : r.Respects R := by
  rintro name arity ns run hrun c f focus args rfl hfocus
  exact h.of_resolve hrun _ focus args (h.respects_view f callDepth) hfocus

end FunctionRegistry

/-- The built-in functions go by the innermost entry. -/
theorem Library.respects_registry [FocusRelation R] : registry.Respects R := by
  have hread (run : Caller → List Value → Except Error Value) :
      Function.Respects R fun s => run s.caller :=
    Function.respects_of_innermost fun s focus args hinnermost => by
      simp only [CallSite.caller, hinnermost]
  rw [registry_eq_ofHistory]
  refine (FunctionRegistry.All.ofHistory fun g hg => ?_).respects
  obtain ⟨⟨name, least, greatest, run⟩, -, rfl⟩ := List.mem_map.1 hg
  exact hread run

/-! ## A function below the innermost entry, and one that counts -/

/-- The number of entries. -/
def Function.countFocus : Function := fun s _ => .ok (Library.ofCount s.focus.length)

namespace FunctionRegistry

/-- A registry with a single function, without arguments. -/
def single (run : Function) : FunctionRegistry := .register .empty ⟨none, "f"⟩ 0 (some 0) run

theorem not_steady_countFocus : ¬(single Function.countFocus).Steady := by
  intro hsteady
  let top : Focus := ⟨.empty, 1, 1⟩
  have hsame : Except.ok (Library.ofCount 2) = Except.ok (Library.ofCount 1) :=
    hsteady ⟨none, "f"⟩ 0 none .countFocus rfl { focus := [top, top], functions := single .countFocus }
      default [top] [] rfl (.again top [])
  have hcount : Float.ofNat 2 = Float.ofNat 1 := Value.number.inj (Except.ok.inj hsame)
  exact absurd hcount (by decide)

end FunctionRegistry

end Grove

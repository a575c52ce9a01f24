/-
Changing expressions. `attachChild` puts a child into a slot, `editChild`
changes the expression in a slot; both put the reduced expression there, and
both leave the expression alone when they fail.
-/
import Grove.Error
import Grove.Expr.Basic

namespace Grove.Expr

/-- A failure that names the kind of the expression. -/
def slotError (kind : ExprKind) (detail : String) : Error :=
  .malformed (kind.label ++ " node" ++ detail)

/-- Puts an expression into a slot, or after the last slot where the operator
allows for more. -/
def attachSlot (op : Operator) (slots : List (Option Expr)) (i : Nat) (e : Expr) :
    Except Error (List (Option Expr)) :=
  if i < slots.length then .ok (slots.set i (some e.reduce))
  else if op.isGrowable && i == slots.length then .ok (slots ++ [some e.reduce])
  else .error (slotError op.kind
    (": no child slot " ++ Nat.repr i ++ " (arity " ++ Nat.repr slots.length ++ ")"))

/-- Puts a child into a slot, in place of what was there. -/
def attachChild (node : Expr) (child : Child) (i : Nat) : Except Error Expr :=
  match node, child with
  | apply (.convert conversion target) slots, child =>
    match child, i with
    | .type t, 0 => .ok (apply (.convert conversion (some t)) slots)
    | .type _, i => .error (slotError node.kind (" takes no sequence type at slot " ++ Nat.repr i))
    | .expr e, 1 => (attachSlot (.convert conversion target) slots 0 e).map
        (apply (.convert conversion target))
    | .expr _, i =>
      .error (slotError node.kind (" takes its operand at slot 1, not " ++ Nat.repr i))
  | node, .type _ => .error (slotError node.kind (" takes no sequence type at slot " ++ Nat.repr i))
  | apply op slots, .expr e => (attachSlot op slots i e).map (apply op)
  | node, .expr _ => .error (slotError node.kind " has no child slots")

/-- Changes the expression in a slot and passes on what the change gives back. -/
def editSlot {α : Type} (op : Operator) (slots : List (Option Expr)) (i : Nat)
    (edit : Expr → α × Expr) : Except Error (α × List (Option Expr)) :=
  match slots[i]? with
  | some (some e) =>
    let (result, edited) := edit e
    .ok (result, slots.set i (some edited.reduce))
  | _ => .error (slotError op.kind
    (": no attached child at slot " ++ Nat.repr i ++ " (arity " ++ Nat.repr slots.length ++ ")"))

/-- Changes the expression in a slot and passes on what the change gives back.
The change is not made unless the slot holds an expression. -/
def editChild {α : Type} (node : Expr) (i : Nat) (edit : Expr → α × Expr) :
    Except Error (α × Expr) :=
  match node, i with
  | apply (.convert _ _) _, 0 => .error (slotError node.kind ": slot 0 holds the sequence type")
  | apply (.convert conversion target) slots, i + 1 =>
    (editSlot (.convert conversion target) slots i edit).map fun (result, slots) =>
      (result, apply (.convert conversion target) slots)
  | apply op slots, i => (editSlot op slots i edit).map fun (result, slots) =>
      (result, apply op slots)
  | node, _ => .error (slotError node.kind " has no child slots")

end Grove.Expr

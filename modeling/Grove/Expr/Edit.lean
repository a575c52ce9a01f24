/-
Edits: changes of an expression that are carried out one after another. An edit
that fails is noted and passed over; an edit inside a slot counts as one more
step of the edits it is made of.
-/
import Grove.Expr.Attach

namespace Grove

inductive Edit where
  /-- Another expression in place of the one there is. -/
  | replace (e : Expr)
  | attach (child : Child) (slot : Nat)
  /-- Edits of the expression in a slot. -/
  | inside (slot : Nat) (edits : List Edit)

mutual

/-- Carries out an edit, with what became of it. The edits inside a slot come before
the edit that leads there; a replacement always succeeds and is not noted. -/
def Edit.apply : Edit → Expr → List (Except Error Unit) × Expr
  | .replace new, _ => ([], new)
  | .attach child slot, e =>
    match e.attachChild child slot with
    | .ok e => ([.ok ()], e)
    | .error failure => ([.error failure], e)
  | .inside slot edits, e =>
    match e.editChild slot (applyEdits edits) with
    | .ok (log, e) => (log ++ [.ok ()], e)
    | .error failure => ([.error failure], e)
  termination_by structural edit => edit

/-- Carries out edits in order. -/
def applyEdits : List Edit → Expr → List (Except Error Unit) × Expr
  | [], e => ([], e)
  | edit :: rest, e =>
    let (first, e) := edit.apply e
    let (others, e) := applyEdits rest e
    (first ++ others, e)
  termination_by structural edits => edits

end

end Grove

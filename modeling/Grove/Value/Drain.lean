/-
Taking many values from a cursor: a given number of them, or all that lie ahead.
The weight of a cursor bounds their number, and `drain` takes one more than
that, so that it comes to the end.
-/
import Grove.Value.Cursor

namespace Grove

/-- Why a cursor stopped. -/
inductive PullEnd where
  /-- As many values as asked for were given. -/
  | more
  /-- There are no more values. -/
  | ended
  | failed (e : Error)

/-- Values taken from a cursor. -/
structure Pull where
  values : List Value
  stop : PullEnd
  cursor : Cursor

mutual

/-- At least as many as the values a walk through a value comes to, nested
sequences included. -/
def Value.weight (f : Forest) : Value → Nat
  | .sequence s => 1 + s.weight f
  | _ => 1
  termination_by structural v => v

/-- At least as many as the values a walk through a sequence comes to. -/
def Sequence.weight (f : Forest) : Sequence → Nat
  | .list items => weightOfList f items
  | .range first last => rangeSize first last
  | .cached inner => inner.weight f
  | .evaluated _ evaluations => weightOfEvaluations f evaluations
  | .nodes walk => (f.model walk.model).size
  termination_by structural s => s

def weightOfList (f : Forest) : List Value → Nat
  | [] => 0
  | v :: vs => v.weight f + weightOfList f vs
  termination_by structural vs => vs

def weightOfOutcome (f : Forest) : Except Error Value → Nat
  | .ok v => v.weight f
  | .error _ => 1
  termination_by structural r => r

def weightOfEvaluations (f : Forest) : List (Forest → Except Error Value) → Nat
  | [] => 0
  | x :: xs => weightOfOutcome f (x f) + weightOfEvaluations f xs
  termination_by structural xs => xs

end

mutual

/-- At least as many as the values that lie ahead of a cursor. -/
def Cursor.weight (f : Forest) : Cursor → Nat
  | .list items => weightOfList f items.ahead
  | .range _ last next => (next.map fun i => rangeSize i last).getD 0
  | .cached inner kept _ => weightOfList f kept.ahead + inner.weight f
  | .evaluated _ evaluations nested kept =>
    kept.ahead.length + weightOfStack f nested + weightOfEvaluations f evaluations.ahead
  | .nodes walk pending _ => (pending.length + 1) * (f.model walk.model).size
  termination_by structural c => c

def weightOfStack (f : Forest) : List Cursor → Nat
  | [] => 0
  | c :: cs => c.weight f + weightOfStack f cs
  termination_by structural cs => cs

end

namespace Cursor

/-- Takes at most so many values from a cursor. -/
def take (f : Forest) : Nat → Cursor → Pull
  | 0, c => { values := [], stop := .more, cursor := c }
  | count + 1, c =>
    match c.next f with
    | (.ok (some v), c) =>
      let rest := take f count c
      { rest with values := v :: rest.values }
    | (.ok none, c) => { values := [], stop := .ended, cursor := c }
    | (.error e, c) => { values := [], stop := .failed e, cursor := c }

/-- Takes all values that lie ahead of a cursor. -/
def drain (f : Forest) (c : Cursor) : Except Error (List Value) × Cursor :=
  let pull := c.take f (c.weight f + 1)
  match pull.stop with
  | .failed e => (.error e, pull.cursor)
  | _ => (.ok pull.values, pull.cursor)

end Cursor

end Grove

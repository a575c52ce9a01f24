/-
Conversions of values: to strings, numbers and lists of single items. A node
stands for its string value; of a sequence the first item counts.
-/
import Grove.Eval.Context
import Grove.Expr.Basic

namespace Grove

namespace Caller

/-- The string value of a node. -/
def nodeText (c : Caller) (h : NodeHandle) : Except Error String := do
  let m ← c.ownerOf h
  (m.stringValue h).mapError Error.ofTree

/-- A node as its string value; any other item as it is. -/
def atomize (c : Caller) (item : Value) : Except Error Value :=
  match item with
  | .node h => (c.nodeText h).map .string
  | item => .ok item

def flatten (c : Caller) (v : Value) : Except Error (List Value) := v.flatten c.forest

def first? (c : Caller) (v : Value) : Except Error (Option Value) := v.first? c.forest

def effectiveBoolean (c : Caller) (v : Value) : Except Error Bool := v.effectiveBoolean c.forest

/-- The string value of the first item; empty if there is none. -/
def stringValue (c : Caller) (v : Value) : Except Error String := do
  match ← c.first? v with
  | none => .ok ""
  | some (.string s) => .ok s
  | some (.number n) => .ok (Number.text n)
  | some (.boolean b) => .ok (Text.truth b)
  | some (.node h) => c.nodeText h
  | some (.sequence _) => .ok ""

/-- What is not a number. -/
def notANumber : Float := 0.0 / 0.0

/-- The number value of the first item; NaN if there is none. -/
def numberValue (c : Caller) (v : Value) : Except Error Float := do
  match ← c.first? v with
  | none => .ok notANumber
  | some (.number n) => .ok n
  | some (.boolean b) => .ok (Number.ofBool b)
  | some (.string s) => .ok (Number.ofText s)
  | some (.node h) => (c.nodeText h).map Number.ofText
  | some (.sequence _) => .ok notANumber

end Caller

namespace ComparisonOp

/-- The comparison of two numbers. -/
def compareNumbers (op : ComparisonOp) (a b : Float) : Bool :=
  match op with
  | eq => a == b
  | ne => a != b
  | lt => a < b
  | le => a ≤ b
  | gt => a > b
  | ge => a ≥ b

/-- An item without nodes as a number. -/
def atomicNumber : Value → Float
  | .number n => n
  | .string s => Number.ofText s
  | v => Number.ofBool v.isTrue

def isBoolean : Value → Bool
  | .boolean _ => true
  | _ => false

def isEquality : ComparisonOp → Bool
  | eq | ne => true
  | _ => false

/-- The comparison of two items without nodes. For equality a truth value makes
both truth values, and two strings are compared as they are; all else is
compared as numbers. -/
def compareAtomic (op : ComparisonOp) (a b : Value) : Bool :=
  if op.isEquality && (isBoolean a || isBoolean b) then
    op.compareNumbers (Number.ofBool a.isTrue) (Number.ofBool b.isTrue)
  else
    match op, a, b with
    | eq, .string x, .string y => x == y
    | ne, .string x, .string y => x != y
    | op, a, b => op.compareNumbers (atomicNumber a) (atomicNumber b)

end ComparisonOp

end Grove

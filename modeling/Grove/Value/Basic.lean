/-
Values: strings, numbers, truth values, nodes, and sequences of values. A
sequence is not a list but a recipe for its items: some are listed, others are
counted, evaluated or walked to on demand, in the forest as it is by then. A
sequence may hold further sequences; its items are those of all of them.
-/
import Grove.Forest.Basic
import Grove.Number.Reading
import Grove.Number.Layout
import Grove.Tree.KindMask

namespace Grove

/-- Whether a sequence of evaluated items keeps what it has yielded. -/
inductive SequenceMode where
  | forwardOnly
  | cached
  deriving DecidableEq, Repr

/-- A test of nodes that may fail. -/
abbrev NodeFilter := Model → NodeHandle → Except Error Bool

namespace NodeFilter

/-- Keeps the nodes whose string value has at least so many characters. -/
def ofLength (least : Nat) : NodeFilter := fun m h =>
  ((m.stringValue h).map fun s => decide (least ≤ s.length)).mapError Error.ofTree

end NodeFilter

/-- A walk over a node and what is below it, past the nodes that are shown. -/
structure NodeWalk where
  model : ModelRef
  root : NodeHandle
  mask : KindMask
  filter : Option NodeFilter := none

mutual

inductive Value where
  | string (s : String)
  | number (n : Float)
  | boolean (b : Bool)
  | node (h : NodeHandle)
  | sequence (s : Sequence)

inductive Sequence where
  /-- Given items. -/
  | list (items : List Value)
  /-- The integers from the first to the last; none if the last is smaller. -/
  | range (first last : Int64)
  /-- The items of another sequence, which are kept. -/
  | cached (inner : Sequence)
  /-- The items of the values of expressions, evaluated in turn. -/
  | evaluated (mode : SequenceMode) (evaluations : List (Forest → Except Error Value))
  /-- The nodes of a walk. -/
  | nodes (walk : NodeWalk)

end

/-- The value of an expression, in the forest as it is when it is asked for. -/
abbrev Evaluation := Forest → Except Error Value

namespace NodeWalk

/-- Whether the walk shows a node. -/
def accepts (w : NodeWalk) (m : Model) (h : NodeHandle) : Except Error Bool := do
  let kind ← (m.kind h).mapError Error.ofTree
  if w.mask.shows kind then
    match w.filter with
    | some filter => filter m h
    | none => .ok true
  else .ok false

end NodeWalk

namespace Value

instance : Inhabited Value := ⟨.boolean false⟩

/-- The empty sequence. -/
def empty : Value := .sequence (.list [])

/-- The sequence of given items. -/
def ofList (items : List Value) : Value := .sequence (.list items)

/-- An integer as a number. -/
def ofInt (i : Int) : Value := .number (Float.ofInt i)

/-- A single item as it is, and anything else as a sequence. -/
def collect : List Value → Value
  | [v] => v
  | items => ofList items

def isSequence : Value → Bool
  | sequence _ => true
  | _ => false

def isNode : Value → Bool
  | node _ => true
  | _ => false

def asString? : Value → Option String
  | string s => some s
  | _ => none

def asNumber? : Value → Option Float
  | number n => some n
  | _ => none

def asBoolean? : Value → Option Bool
  | boolean b => some b
  | _ => none

def asNode? : Value → Option NodeHandle
  | node h => some h
  | _ => none

/-- The type of a value in messages. -/
def typeName : Value → String
  | string _ => "xs:string"
  | number _ => "xs:double"
  | boolean _ => "xs:boolean"
  | node _ => "node()"
  | sequence _ => "item()*"

end Value

/-- How many integers there are from one to another. -/
def rangeSize (first last : Int64) : Nat := (last.toInt - first.toInt + 1).toNat

end Grove

/-
The value of an expression. Every operator has a meaning over the computations
in its slots, and `Expr.evaluate` puts them together.

Comma sequences and ranges come back unevaluated and are evaluated as their
items are asked for; paths, filters and function results are whole.
-/
import Grove.Eval.Cast
import Grove.Eval.Library
import Grove.Eval.Monad
import Grove.Expr.Attach

namespace Grove

/-- The computations in the slots of an expression. -/
abbrev Slots := List (Option (Eval Value))

namespace Eval

/-- The failure of a slot that is vacant. -/
def vacant (what : String) (i : Nat) : Error :=
  .malformed (what ++ " (slot " ++ Nat.repr i ++ ") was never attached")

/-- The computation in a slot. -/
def slot (slots : Slots) (i : Nat) (what : String) : Except Error (Eval Value) :=
  match slots[i]? with
  | some (some x) => .ok x
  | _ => .error (vacant what i)

/-- The items of a computation. -/
def items (x : Eval Value) : Eval (List Value) := do
  let v ← x
  ask (·.flatten v)

/-- The number of the single item of a computation, if it has one. -/
def optionalNumber (x : Eval Value) (what : String) : Eval (Option Float) := do
  match ← items x with
  | [] => pure none
  | [item] => do
    let atom ← ask (·.atomize item)
    let n ← ask (·.numberValue atom)
    pure (some n)
  | many => fail (.mistyped (what ++ " expects at most one item, got " ++ Nat.repr many.length))

/-- The quotient of two numbers without its fractional part. -/
def integerQuotient (a b : Float) : Except Error Float :=
  if b == 0.0 then .error { code := .FOAR0001, message := "integer division by zero" }
  else if a.isNaN || b.isNaN || a.isInf then
    .error { code := .FOCA0002,
             message := "cannot integer-divide " ++ Number.text a ++ " by " ++ Number.text b }
  else .ok (Number.truncate (a / b))

/-- The result of an arithmetic operation. -/
def calculate (op : ArithmeticOp) (a b : Float) : Except Error Float :=
  match op with
  | .add => .ok (a + b)
  | .sub => .ok (a - b)
  | .mul => .ok (a * b)
  | .div => .ok (a / b)
  | .mod => .ok (Number.remainder a b)
  | .idiv => integerQuotient a b

/-- An arithmetic operation. Without an operand there is no result. -/
def arithmetic (op : ArithmeticOp) (left right : Eval Value) : Eval Value := do
  let a ← optionalNumber left "arithmetic"
  let b ← optionalNumber right "arithmetic"
  match a, b with
  | some a, some b => do
    let n ← ofExcept (calculate op a b)
    pure (.number n)
  | _, _ => pure .empty

/-- The items of a computation, without nodes. -/
def atoms (x : Eval Value) : Eval (List Value) := do
  let vs ← items x
  ask fun c => vs.mapM c.atomize

/-- A comparison: whether it holds for some item on the left and some on the
right. -/
def compare (op : ComparisonOp) (left right : Eval Value) : Eval Value := do
  let ls ← atoms left
  let rs ← atoms right
  pure (.boolean (ls.any fun a => rs.any fun b => op.compareAtomic a b))

/-- The truth of a computation. -/
def truth (x : Eval Value) : Eval Bool := do
  let v ← x
  ask (·.effectiveBoolean v)

/-- A logical operation. The right side counts only if the left does not decide. -/
def logical (op : LogicalOp) (left right : Eval Value) : Eval Value := do
  let l ← truth left
  let decided := match op with
    | .and => !l
    | .or => l
  if decided then pure (.boolean l)
  else do
    let r ← truth right
    pure (.boolean r)

/-- A bound of a range: a whole number of at most nine thousand million million in
magnitude. -/
def rangeBound (x : Eval Value) : Eval (Option Int64) := do
  match ← optionalNumber x "range" with
  | none => pure none
  | some n =>
    if Number.isWhole n && n.abs ≤ 9.0e15 then pure (some (Int64.ofInt (Number.toInt n)))
    else fail (.mistyped ("range bound " ++ Number.text n ++ " is not an integer"))

/-- The integers from one to another. -/
def range (left right : Eval Value) : Eval Value := do
  let a ← rangeBound left
  let b ← rangeBound right
  match a, b with
  | some a, some b => pure (.sequence (.range a b))
  | _, _ => pure .empty

/-- An operation on two operands. -/
def binary (op : BinaryOp) (slots : Slots) : Eval Value := do
  let left ← ofExcept (slot slots 0 "left operand")
  let right ← ofExcept (slot slots 1 "right operand")
  match op with
  | .arithmetic op => arithmetic op left right
  | .comparison op => compare op left right
  | .logical op => logical op left right
  | .range => range left right

/-- A sign before an operand. -/
def unary (negate : Bool) (slots : Slots) : Eval Value := do
  let operand ← ofExcept (slot slots 0 "operand")
  match ← optionalNumber operand "unary minus" with
  | none => pure .empty
  | some n => pure (.number (if negate then -n else n))

/-- One of two branches. -/
def conditional (slots : Slots) : Eval Value := do
  let condition ← ofExcept (slot slots 0 "condition")
  let holds ← truth condition
  let branch ← ofExcept (slot slots (if holds then 1 else 2) "branch")
  branch

/-- What a slot of a sequence gives when it is asked for: its value in the context of
the sequence, with the focus of the sequence once more on top. -/
def suspended (c : Context) (slots : Slots) (i : Nat) : Evaluation := fun f =>
  match slot slots i "sequence item" with
  | .error e => .error e
  | .ok x =>
    match c.focus.head? with
    | some focus => (focused focus x).runIn c f
    | none => x.runIn c f

/-- A sequence of the items of its slots, evaluated in turn when asked for. -/
def sequenceOf (mode : SequenceMode) (slots : Slots) (c : Context) : Sequence :=
  .evaluated mode ((List.range slots.length).map (suspended c slots))

/-- A comma sequence. -/
def sequence (slots : Slots) : Eval Value :=
  if slots.isEmpty then pure .empty
  else askContext fun c => .ok (.sequence (sequenceOf .forwardOnly slots c))

/-- What stands in parentheses; nothing if there is nothing in them. -/
def parenthesized (slots : Slots) : Eval Value :=
  match slots[0]? with
  | some (some x) => x
  | _ => pure .empty

/-- A cast. -/
def cast (target : Option SequenceType) (slots : Slots) : Eval Value := do
  let type ← ofExcept (target.elim (.error (.malformed "cast expression without a target type")) .ok)
  let operand ← ofExcept ((slot slots 0 "").mapError fun _ =>
    .malformed "cast expression without an operand")
  let (atomic, optional) ← ofExcept type.castTarget
  let vs ← items operand
  ask fun c => type.castItems atomic optional c vs

/-- A check against a type, which leaves the items as they are. -/
def treat (target : Option SequenceType) (slots : Slots) : Eval Value := do
  let type ← ofExcept (target.elim (.error (.malformed "treat expression without a target type")) .ok)
  let operand ← ofExcept ((slot slots 0 "").mapError fun _ =>
    .malformed "treat expression without an operand")
  ofExcept type.checkKnown
  let vs ← items operand
  ask fun c => type.check c vs
  pure (.collect vs)

/-- The values of the arguments of a call, from the given slot on. -/
def arguments (slots : Slots) : List Nat → Eval (List Value)
  | [] => pure []
  | i :: rest => do
    let x ← ofExcept (slot slots i "argument")
    let v ← x
    let vs ← arguments slots rest
    pure (v :: vs)

/-- A call of a function. The function is looked up before its arguments are
evaluated. -/
def call (name : QName) (slots : Slots) : Eval Value := do
  let run ← askContext fun c =>
    (c.functions.resolve (.ofQName name) slots.length c.defaultFunctionNamespace).mapError
      ResolveError.toError
  let args ← arguments slots (List.range slots.length)
  apply run args

/-- Whether a predicate with a value holds at a position: a single number asks for
the position, any other value for its truth. -/
def predicateHolds (c : Caller) (v : Value) (position : Nat) : Except Error Bool := do
  let v ← match v with
    | .sequence _ => (c.flatten v).map Value.collect
    | v => .ok v
  match v with
  | .number n => .ok (n == Float.ofNat position)
  | v => c.effectiveBoolean v

/-- The items from a position on for which a predicate holds, with each of them in
focus. -/
def keepFrom (predicate : Eval Value) (size : Nat) : Nat → List Value → Eval (List Value)
  | _, [] => pure []
  | position, item :: rest => do
    let v ← focused ⟨item, position, size⟩ predicate
    let holds ← ask fun c => predicateHolds c v position
    let kept ← keepFrom predicate size (position + 1) rest
    pure (if holds then item :: kept else kept)

/-- The items for which a predicate holds. -/
def applyPredicate (predicate : Eval Value) (vs : List Value) : Eval (List Value) :=
  keepFrom predicate vs.length 1 vs

/-- The items for which the predicates in some slots hold, one after the other. -/
def applyPredicates (slots : Slots) : List Nat → List Value → Eval (List Value)
  | [], vs => pure vs
  | i :: rest, vs => do
    let predicate ← ofExcept (slot slots i "predicate")
    let vs ← applyPredicate predicate vs
    applyPredicates slots rest vs

/-- The items of a base that pass all predicates. -/
def filter (slots : Slots) : Eval Value := do
  let base ← ofExcept (slot slots 0 "filter base")
  let vs ← items base
  let vs ← applyPredicates slots ((List.range slots.length).drop 1) vs
  pure (.collect vs)

/-- The node in focus; `why` is the failure if there is an item but no node. -/
def contextNode (why : String) : Eval NodeHandle := do
  match ← ask (·.currentNode) with
  | some h => pure h
  | none => fail { code := .XPTY0020, message := why }

/-- The nodes of an axis that pass a test, the nearest first. -/
def candidates (axis : Axis) (test : NodeTest) (m : Model) (h : NodeHandle) :
    Except TreeError (List NodeHandle) := do
  let all ← axis.nodes m h
  all.filterM fun n => test.accepts axis.principalKind m n

/-- The nodes of an axis that pass a test and all predicates, in document order. -/
def step (axis : Axis) (test : NodeTest) (slots : Slots) : Eval Value := do
  let h ← contextNode ("axis step " ++ axis.name ++ " needs a node as context item")
  let m ← ask (·.ownerOf h)
  let found ← ofExcept ((candidates axis test m h).mapError Error.ofTree)
  let vs ← applyPredicates slots (List.range slots.length) (found.map .node)
  pure (.collect ((NodeHandle.sort (vs.filterMap (·.asNode?))).map .node))

/-- The items as nodes; none of them may be anything else. -/
def asNodes : List Value → Except Error (List NodeHandle)
  | [] => .ok []
  | v :: vs =>
    match v with
    | .node h => (asNodes vs).map (h :: ·)
    | v => .error { code := .XPTY0019,
                    message := "path step applied to a non-node (" ++ v.typeName ++ ")" }

/-- The result of a path step: nodes in document order, each once, or other items as
they come, but not both. -/
def inDocumentOrder (vs : List Value) : Except Error (List Value) :=
  let nodes := vs.filterMap (·.asNode?)
  if nodes.isEmpty then .ok vs
  else if nodes.length == vs.length then .ok ((NodeHandle.sortDistinct nodes).map .node)
  else .error { code := .XPTY0019, message := "path step returned both nodes and atomic values" }

/-- The items of a step, with each of the nodes from a position on in focus. -/
def stepFrom (x : Eval Value) (size : Nat) : Nat → List NodeHandle → Eval (List Value)
  | _, [] => pure []
  | position, h :: rest => do
    let v ← focused ⟨.node h, position, size⟩ x
    let vs ← ask (·.flatten v)
    let others ← stepFrom x size (position + 1) rest
    pure (vs ++ others)

/-- The steps in some slots, each from all nodes of the one before. -/
def steps (slots : Slots) : List Nat → List Value → Eval (List Value)
  | [], vs => pure vs
  | i :: rest, vs => do
    let x ← ofExcept (slot slots i "path step")
    let nodes ← ofExcept (asNodes vs)
    let vs ← stepFrom x nodes.length 1 nodes
    let vs ← ofExcept (inDocumentOrder vs)
    steps slots rest vs

/-- The root of the tree of the node in focus, or all nodes of the tree. -/
def origin (whole : Bool) : Eval (List Value) := do
  let h ← contextNode "a path starting at the root needs a node as context item"
  let m ← ask (·.ownerOf h)
  if whole then do
    let all ← ofExcept ((m.descendants m.document true).mapError Error.ofTree)
    pure (all.map .node)
  else pure [.node m.document]

/-- A path. The result of a first step without a start is taken as it is. -/
def path (start : PathStart) (slots : Slots) : Eval Value :=
  let all := List.range slots.length
  match start with
  | .relative =>
    match all with
    | [] => pure .empty
    | first :: rest => do
      let x ← ofExcept (slot slots first "path step")
      let vs ← items x
      let vs ← steps slots rest vs
      pure (.collect vs)
  | .root => do
    let vs ← origin false
    let vs ← steps slots all vs
    pure (.collect vs)
  | .rootDescendants => do
    let vs ← origin true
    let vs ← steps slots all vs
    pure (.collect vs)

end Eval

/-- The value of a literal. -/
def Literal.value : Literal → Value
  | .string s => .string s
  | .integer i => .ofInt i.toInt
  | .double d => .number d

/-- What an operator does with the computations in its slots. -/
def Operator.evaluate (op : Operator) (slots : Slots) : Eval Value :=
  match op with
  | parenthesized => Eval.parenthesized slots
  | sequence => Eval.sequence slots
  | binary op => Eval.binary op slots
  | unary negate => Eval.unary negate slots
  | conditional => Eval.conditional slots
  | convert .cast target => Eval.cast target slots
  | convert .treat target => Eval.treat target slots
  | call name => Eval.call name slots
  | path start => Eval.path start slots
  | step axis test => Eval.step axis test slots
  | filter => Eval.filter slots

namespace Expr

mutual

/-- The value of an expression. -/
def evaluate : Expr → Eval Value
  | literal value => pure value.value
  | contextItem => Eval.ask (·.currentItem)
  | varRef name => Eval.askContext (·.lookupVariable (.ofQName name))
  | apply op slots => op.evaluate (evaluateSlots slots)
  termination_by structural e => e

/-- The computations in slots. -/
def evaluateSlots : List (Option Expr) → Slots
  | [] => []
  | s :: ss => evaluateSlot s :: evaluateSlots ss
  termination_by structural ss => ss

def evaluateSlot : Option Expr → Option (Eval Value)
  | none => none
  | some e => some (evaluate e)
  termination_by structural s => s

end

/-- All items of an expression. -/
def evaluateAll (e : Expr) : Eval (List Value) := Eval.items e.evaluate

/-- The first item of an expression. -/
def evaluateFirst (e : Expr) : Eval (Option Value) := do
  let v ← e.evaluate
  Eval.ask (·.first? v)

end Expr

/-- The sequence of the items of some expressions in a context. -/
def Sequence.ofExprs (mode : SequenceMode) (es : List Expr) (c : Context) : Sequence :=
  Eval.sequenceOf mode (Expr.evaluateSlots (Expr.filled es)) c

/-- A context without anything but the built-in functions. -/
def Context.standard : Context := { functions := Library.registry }

end Grove

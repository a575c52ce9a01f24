/-
Expressions. An expression is a leaf or an operator over slots; a slot holds a
child or is vacant. Some operators have a fixed number of slots, others can be
given more.

A parenthesised expression or a comma sequence with exactly one slot that is
filled is a mere wrapper: whatever puts an expression into a slot puts the
child of a wrapper there instead (`Expr.reduce`).
-/
import Grove.Expr.Type

namespace Grove

inductive ArithmeticOp where
  | add | sub | mul | div | idiv | mod
  deriving DecidableEq, Repr

inductive ComparisonOp where
  | eq | ne | lt | le | gt | ge
  deriving DecidableEq, Repr

inductive LogicalOp where
  | and | or
  deriving DecidableEq, Repr

inductive BinaryOp where
  | arithmetic (op : ArithmeticOp)
  | comparison (op : ComparisonOp)
  | logical (op : LogicalOp)
  | range
  deriving DecidableEq, Repr

/-- Where a path starts. -/
inductive PathStart where
  /-- At what its first step gives. -/
  | relative
  /-- At the root of the tree of the context node. -/
  | root
  /-- At all nodes of the tree of the context node. -/
  | rootDescendants
  deriving DecidableEq, Repr

inductive Literal where
  | string (value : String)
  | integer (value : Int64)
  | double (value : Float)

/-- Whether a value is converted to a type or checked against it. -/
inductive Conversion where
  | cast
  | treat
  deriving DecidableEq, Repr

/-- What an expression does with the children in its slots. -/
inductive Operator where
  | parenthesized
  | sequence
  | binary (op : BinaryOp)
  /-- Minus or plus before an operand. -/
  | unary (negate : Bool)
  | conditional
  | convert (conversion : Conversion) (target : Option SequenceType)
  | call (name : QName)
  | path (start : PathStart)
  | step (axis : Axis) (test : NodeTest)
  /-- A base in the first slot, predicates in the others. -/
  | filter
  deriving DecidableEq, Repr

inductive Expr where
  | literal (value : Literal)
  | contextItem
  | varRef (name : QName)
  | apply (op : Operator) (slots : List (Option Expr))

/-- The kind of an expression. -/
inductive ExprKind where
  | literal
  | contextItem
  | varRef
  | parenthesized
  | sequence
  | binary
  | unary
  | conditional
  | cast
  | treat
  | functionCall
  | path
  | step
  | filter
  deriving DecidableEq, Repr

/-- The name of a kind in messages. -/
def ExprKind.label : ExprKind → String
  | literal => "Literal"
  | contextItem => "ContextItem"
  | varRef => "VarRef"
  | parenthesized => "Parenthesized"
  | sequence => "Sequence"
  | binary => "Binary"
  | unary => "Unary"
  | conditional => "If"
  | cast => "Cast"
  | treat => "Treat"
  | functionCall => "FunctionCall"
  | path => "Path"
  | step => "Step"
  | filter => "Filter"

namespace Operator

def kind : Operator → ExprKind
  | parenthesized => .parenthesized
  | sequence => .sequence
  | binary _ => .binary
  | unary _ => .unary
  | conditional => .conditional
  | convert .cast _ => .cast
  | convert .treat _ => .treat
  | call _ => .functionCall
  | path _ => .path
  | step _ _ => .step
  | filter => .filter

/-- Whether an expression can be given further slots. -/
def isGrowable : Operator → Bool
  | sequence | call _ | path _ | step _ _ | filter => true
  | _ => false

/-- How many slots come before the slots of children: the slot of the target type
of a conversion. -/
def typeSlots : Operator → Nat
  | convert _ _ => 1
  | _ => 0

/-- Whether a filled single slot makes an expression with the operator a mere
wrapper. -/
def isWrapper : Operator → Bool
  | parenthesized | sequence => true
  | _ => false

end Operator

namespace Expr

def kind : Expr → ExprKind
  | literal _ => .literal
  | contextItem => .contextItem
  | varRef _ => .varRef
  | apply op _ => op.kind

/-- The child of a wrapper; any other expression as it is. -/
def reduce : Expr → Expr
  | apply op [some child] => if op.isWrapper then child else apply op [some child]
  | e => e

/-- Filled slots. -/
def filled (es : List Expr) : List (Option Expr) := es.map fun e => some e.reduce

def string (s : String) : Expr := literal (.string s)

def integer (i : Int64) : Expr := literal (.integer i)

def double (d : Float) : Expr := literal (.double d)

/-- A reference to a variable by its written name. -/
def var (name : String) : Expr := varRef (QName.ofText name)

def emptyParenthesized : Expr := apply .parenthesized [none]

def parenthesized (inner : Expr) : Expr := apply .parenthesized (filled [inner])

/-- A comma sequence; the empty list gives the empty sequence. -/
def sequence (items : List Expr) : Expr := apply .sequence (filled items)

def emptyBinary (op : BinaryOp) : Expr := apply (.binary op) [none, none]

def binary (op : BinaryOp) (left right : Expr) : Expr := apply (.binary op) (filled [left, right])

def unary (negate : Bool) (operand : Expr) : Expr := apply (.unary negate) (filled [operand])

def ifThenElse (condition yes no : Expr) : Expr := apply .conditional (filled [condition, yes, no])

def emptyConvert (conversion : Conversion) : Expr := apply (.convert conversion none) [none]

def convert (conversion : Conversion) (target : SequenceType) (operand : Expr) : Expr :=
  apply (.convert conversion (some target)) (filled [operand])

def call (name : QName) (args : List Expr) : Expr := apply (.call name) (filled args)

def path (start : PathStart) (steps : List Expr) : Expr := apply (.path start) (filled steps)

def step (axis : Axis) (test : NodeTest) (predicates : List Expr) : Expr :=
  apply (.step axis test) (filled predicates)

/-- A step to the children of a name. -/
def child (name : String) : Expr := step .child (NodeTest.ofText name) []

/-- A step to the attributes of a name. -/
def attr (name : String) : Expr := step .attr (NodeTest.ofText name) []

def filter (base : Expr) (predicates : List Expr) : Expr :=
  apply .filter (filled (base :: predicates))

/-- How many slots there are. A conversion counts the slot of its type. -/
def arity : Expr → Nat
  | apply op slots => op.typeSlots + slots.length
  | _ => 0

end Expr

/-- What a slot can hold: an expression, or the target type of a conversion. -/
inductive Child where
  | expr (e : Expr)
  | type (t : SequenceType)

namespace Expr

/-- What a slot holds. The first slot of a conversion is that of its type. -/
def childAt : Expr → Nat → Option Child
  | apply (.convert _ target) _, 0 => target.map .type
  | apply (.convert _ _) slots, i + 1 => (slots[i]?.join).map .expr
  | apply _ slots, i => (slots[i]?.join).map .expr
  | _, _ => none

end Expr

end Grove

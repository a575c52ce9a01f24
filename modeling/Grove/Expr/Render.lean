/-
Expressions as text. Operands that bind looser than the operator around them
stand in parentheses, and so do right operands that bind equally, since every
operator with two operands associates to the left. Vacant slots leave no text.
The short form abbreviates steps.
-/
import Grove.Expr.Basic
import Grove.Number.Layout

namespace Grove

namespace ArithmeticOp

def token : ArithmeticOp → String
  | add => "+"
  | sub => "-"
  | mul => "*"
  | div => "div"
  | idiv => "idiv"
  | mod => "mod"

end ArithmeticOp

namespace ComparisonOp

def token : ComparisonOp → String
  | eq => "="
  | ne => "!="
  | lt => "<"
  | le => "<="
  | gt => ">"
  | ge => ">="

end ComparisonOp

/-- How tightly expressions bind, the loosest first. -/
inductive Binding where
  | conditional
  | or
  | and
  | comparison
  | range
  | additive
  | multiplicative
  | unary
  | path
  | primary
  deriving DecidableEq, Repr

/-- The place of a binding in the order. -/
def Binding.level : Binding → Nat
  | conditional => 0
  | or => 1
  | and => 2
  | comparison => 3
  | range => 4
  | additive => 5
  | multiplicative => 6
  | unary => 7
  | path => 8
  | primary => 9

namespace BinaryOp

def token : BinaryOp → String
  | arithmetic op => op.token
  | comparison op => op.token
  | logical .and => "and"
  | logical .or => "or"
  | range => "to"

def all : List BinaryOp :=
  [ArithmeticOp.add, .sub, .mul, .div, .idiv, .mod].map arithmetic ++
    [ComparisonOp.eq, .ne, .lt, .le, .gt, .ge].map comparison ++
    [LogicalOp.and, .or].map logical ++ [range]

/-- Reads the token of an operator. -/
def ofToken? (s : String) : Option BinaryOp := all.find? (·.token == s)

def binding : BinaryOp → Binding
  | logical .or => .or
  | logical .and => .and
  | comparison _ => .comparison
  | range => .range
  | arithmetic .add | arithmetic .sub => .additive
  | arithmetic _ => .multiplicative

end BinaryOp

def Operator.binding : Operator → Binding
  | .conditional => .conditional
  | .binary op => op.binding
  | .unary _ => .unary
  | .path _ => .path
  | _ => .primary

/-- A text literal: in double quotes, with the quotes inside written twice. -/
def Literal.render : Literal → String
  | .string s => "\"" ++ String.ofList (s.toList.flatMap fun c => if c == '"' then ['"', '"'] else [c]) ++ "\""
  | .integer i => Int.repr i.toInt
  | .double d => Number.literalLayout.write d

/-- The text of a child and how tightly it binds. -/
structure Rendered where
  binding : Binding
  text : String

namespace Rendered

/-- The text of a slot. -/
def slot (r : Option Rendered) : String := r.elim "" (·.text)

/-- The text of an operand, in parentheses where it needs them. -/
def operand (r : Option Rendered) (parent : Binding) (right : Bool) : String :=
  match r with
  | none => ""
  | some r =>
    let level := r.binding.level
    if level < parent.level || (right && level == parent.level && level < Binding.path.level) then
      "(" ++ r.text ++ ")"
    else r.text

def predicate (r : Option Rendered) : String := "[" ++ slot r ++ "]"

def list (rs : List (Option Rendered)) : String := ", ".intercalate (rs.map slot)

end Rendered

/-- The axis and test of a step. -/
def Axis.renderStep (axis : Axis) (test : NodeTest) (plain short : Bool) : String :=
  let long := axis.name ++ "::" ++ test.render
  if short then
    match axis with
    | .child => test.render
    | .attr => "@" ++ test.render
    | .self => if plain && test == .kind .anyNode then "." else long
    | .parent => if plain && test == .kind .anyNode then ".." else long
    | _ => long
  else long

/-- The mark with which a path starts. -/
def PathStart.render : PathStart → String
  | relative => ""
  | root => "/"
  | rootDescendants => "//"

namespace Operator

/-- The text of an operator over the texts of its slots. -/
def render (op : Operator) (slots : List (Option Rendered)) (short : Bool) : String :=
  let slot (i : Nat) := slots[i]?.join
  match op with
  | parenthesized | sequence => "(" ++ Rendered.list slots ++ ")"
  | binary op =>
    Rendered.operand (slot 0) op.binding false ++ " " ++ op.token ++ " " ++
      Rendered.operand (slot 1) op.binding true
  | unary negate => (if negate then "-" else "+") ++ Rendered.operand (slot 0) .unary false
  | conditional =>
    "if (" ++ Rendered.slot (slot 0) ++ ") then " ++ Rendered.slot (slot 1) ++ " else " ++
      Rendered.slot (slot 2)
  | convert conversion target =>
    (match conversion with
      | .cast => "cast as "
      | .treat => "treat as ") ++
      target.elim "" SequenceType.render ++ "(" ++ Rendered.slot (slot 0) ++ ")"
  | call name => name.text ++ "(" ++ Rendered.list slots ++ ")"
  | path start => start.render ++ "/".intercalate (slots.map (Rendered.operand · .path true))
  | step axis test =>
    axis.renderStep test slots.isEmpty short ++ String.join (slots.map Rendered.predicate)
  | filter =>
    Rendered.operand (slot 0) .primary true ++ String.join ((slots.drop 1).map Rendered.predicate)

end Operator

namespace Expr

mutual

/-- An expression as text, with how tightly it binds. -/
def rendered (short : Bool) : Expr → Rendered
  | literal value => ⟨.primary, value.render⟩
  | contextItem => ⟨.primary, "."⟩
  | varRef name => ⟨.primary, "$" ++ name.text⟩
  | apply op slots => ⟨op.binding, op.render (renderedSlots short slots) short⟩
  termination_by structural e => e

def renderedSlots (short : Bool) : List (Option Expr) → List (Option Rendered)
  | [] => []
  | s :: ss => renderedSlot short s :: renderedSlots short ss
  termination_by structural ss => ss

def renderedSlot (short : Bool) : Option Expr → Option Rendered
  | none => none
  | some e => some (rendered short e)
  termination_by structural s => s

end

/-- An expression as text, in the short or the long form. -/
def render (short : Bool) (e : Expr) : String := (rendered short e).text

/-- An expression as text in the short form. -/
def text (e : Expr) : String := e.render true

end Expr

end Grove

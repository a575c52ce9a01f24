/-
Axes and tests: the nodes that an axis leads to, the nearest first, and whether
a node passes a test.
-/
import Grove.Error
import Grove.Expr.Type
import Grove.Tree.Model

namespace Grove

namespace Axis

/-- The nodes after the last one below a node. -/
def followingNodes (m : Model) (h : NodeHandle) : Except TreeError (List NodeHandle) := do
  let below ← m.descendants h false
  let last := below.getLast?.getD h
  let all ← m.descendants m.document false
  return all.filter last.precedes

/-- The nodes before a node that are not above it, the nearest first. -/
def precedingNodes (m : Model) (h : NodeHandle) : Except TreeError (List NodeHandle) := do
  let above ← m.ancestors h false
  let all ← m.descendants m.document false
  return (all.filter fun n => n.precedes h && !above.contains n).reverse

/-- The nodes that an axis leads to, the nearest first. -/
def nodes (axis : Axis) (m : Model) (h : NodeHandle) : Except TreeError (List NodeHandle) :=
  match axis with
  | child => m.children h
  | descendant => m.descendants h false
  | descendantOrSelf => m.descendants h true
  | attr => m.attributes h
  | binding => m.bindings h
  | self => .ok [h]
  | parent => (m.parent h).map Option.toList
  | ancestor => m.ancestors h false
  | ancestorOrSelf => m.ancestors h true
  | followingSibling => m.followingSiblings h
  | precedingSibling => m.precedingSiblings h
  | following => followingNodes m h
  | preceding => precedingNodes m h

end Axis

/-- Whether a node has a name. A name with a qualifier but no namespace is compared
by qualifier, any other by namespace. -/
def QName.isNameOf (test : QName) (name : Option QName) : Bool :=
  match name with
  | none => false
  | some name =>
    if test.namespaceUri.isNone && test.qualifier.isSome then
      test.qualifier == name.qualifier && test.localName == name.localName
    else test.sameName name

/-- Whether a node passes a test of kind and name. -/
def KindTest.accepts (test : KindTest) (m : Model) (h : NodeHandle) : Except TreeError Bool := do
  let kind ← m.kind h
  let name ← m.name h
  return match test with
    | anyNode => true
    | document => kind.isRoot
    | text => kind == .text
    | comment => kind == .comment
    | element wanted => kind == .element && wanted.all (·.isNameOf name)
    | attr wanted => kind == .attr && wanted.all (·.isNameOf name)
    | instruction target => kind == .instruction && target.all fun t => name.any (·.localName == t)

/-- Whether a node passes the test of a step, where a name means nodes of the
principal kind of the axis. -/
def NodeTest.accepts (test : NodeTest) (principal : NodeKind) (m : Model) (h : NodeHandle) :
    Except TreeError Bool :=
  match test with
  | kind test => test.accepts m h
  | name test => do
    let kind ← m.kind h
    let name ← m.name h
    return kind == principal && match test with
      | .any => true
      | .named wanted => wanted.isNameOf name

end Grove

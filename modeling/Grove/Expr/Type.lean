/-
Tests and types: what a step or a type says about nodes, and the sequence types
that values are cast to or treated as.
-/
import Grove.Name
import Grove.Tree.Node

namespace Grove

/-- How many items a type allows. -/
inductive Occurrence where
  | one
  | zeroOrOne
  | zeroOrMore
  | oneOrMore
  deriving DecidableEq, Repr

namespace Occurrence

def allows : Occurrence → Nat → Bool
  | one, n => n == 1
  | zeroOrOne, n => n ≤ 1
  | zeroOrMore, _ => true
  | oneOrMore, n => 1 ≤ n

/-- The indicator after an item type. -/
def indicator : Occurrence → String
  | one => ""
  | zeroOrOne => "?"
  | zeroOrMore => "*"
  | oneOrMore => "+"

def all : List Occurrence := [one, zeroOrOne, zeroOrMore, oneOrMore]

/-- Reads an indicator. -/
def ofIndicator? (s : String) : Option Occurrence := all.find? (·.indicator == s)

end Occurrence

/-- A test of the kind of a node, and of its name where it has one. -/
inductive KindTest where
  | anyNode
  | document
  | element (name : Option QName)
  | attr (name : Option QName)
  | text
  | comment
  | instruction (target : Option String)
  deriving DecidableEq, Repr

def KindTest.render : KindTest → String
  | anyNode => "node()"
  | document => "document-node()"
  | element name => "element(" ++ name.elim "" QName.text ++ ")"
  | attr name => "attribute(" ++ name.elim "" QName.text ++ ")"
  | text => "text()"
  | comment => "comment()"
  | instruction target => "processing-instruction(" ++ target.getD "" ++ ")"

/-- The type of one item. -/
inductive ItemType where
  | kind (test : KindTest)
  | item
  | atomic (name : QName)
  deriving DecidableEq, Repr

def ItemType.render : ItemType → String
  | kind test => test.render
  | item => "item()"
  | atomic name => name.text

/-- The type of a sequence of items. -/
inductive SequenceType where
  | emptySequence
  | typed (type : ItemType) (occurrence : Occurrence)
  deriving DecidableEq, Repr

namespace SequenceType

/-- The type of built-in atomic values of a local name. -/
def atomic (localName : String) (occurrence : Occurrence) : SequenceType :=
  .typed (.atomic (QName.bound "xs" localName schemaNamespace)) occurrence

def kind (test : KindTest) (occurrence : Occurrence) : SequenceType :=
  .typed (.kind test) occurrence

def item (occurrence : Occurrence) : SequenceType := .typed .item occurrence

def render : SequenceType → String
  | emptySequence => "empty-sequence()"
  | typed type occurrence => type.render ++ occurrence.indicator

end SequenceType

/-- The built-in atomic types. -/
inductive AtomicType where
  | anyAtomic
  | string
  | untypedAtomic
  | anyUri
  | boolean
  | double
  | float
  | decimal
  | integer
  deriving DecidableEq, Repr

namespace AtomicType

/-- The type of a name in the namespace of atomic types. A name without a
namespace is in it if its qualifier is `xs`. -/
def ofQName? (q : QName) : Option AtomicType :=
  if q.namespaceUri == some schemaNamespace ||
      (q.namespaceUri.isNone && q.qualifier == some "xs") then
    match q.localName with
    | "anyAtomicType" => some anyAtomic
    | "string" => some string
    | "untypedAtomic" => some untypedAtomic
    | "anyURI" => some anyUri
    | "boolean" => some boolean
    | "double" => some double
    | "float" => some float
    | "decimal" => some decimal
    | "integer" => some integer
    | _ => none
  else none

def isNumeric : AtomicType → Bool
  | double | float | decimal | integer => true
  | _ => false

/-- The name of the type in messages. -/
def label : AtomicType → String
  | anyAtomic => "AnyAtomic"
  | string => "String"
  | untypedAtomic => "UntypedAtomic"
  | anyUri => "AnyUri"
  | boolean => "Boolean"
  | double => "Double"
  | float => "Float"
  | decimal => "Decimal"
  | integer => "Integer"

end AtomicType

/-- A direction in which a step goes. -/
inductive Axis where
  | child
  | descendant
  | attr
  | self
  | descendantOrSelf
  | followingSibling
  | following
  | binding
  | parent
  | ancestor
  | precedingSibling
  | preceding
  | ancestorOrSelf
  deriving DecidableEq, Repr

namespace Axis

def all : List Axis :=
  [child, descendant, attr, self, descendantOrSelf, followingSibling, following, binding, parent,
    ancestor, precedingSibling, preceding, ancestorOrSelf]

def name : Axis → String
  | child => "child"
  | descendant => "descendant"
  | attr => "attribute"
  | self => "self"
  | descendantOrSelf => "descendant-or-self"
  | followingSibling => "following-sibling"
  | following => "following"
  | binding => "namespace"
  | parent => "parent"
  | ancestor => "ancestor"
  | precedingSibling => "preceding-sibling"
  | preceding => "preceding"
  | ancestorOrSelf => "ancestor-or-self"

/-- Reads the name of an axis. -/
def ofName? (s : String) : Option Axis := all.find? (·.name == s)

/-- Whether predicates number the nodes against document order. -/
def isReverse : Axis → Bool
  | parent | ancestor | ancestorOrSelf | precedingSibling | preceding => true
  | _ => false

/-- The kind of nodes that a name on the axis means. -/
def principalKind : Axis → NodeKind
  | attr => .attr
  | binding => .binding
  | _ => .element

end Axis

/-- A test of the name of a node. -/
inductive NameTest where
  | named (name : QName)
  | any
  deriving DecidableEq, Repr

/-- The test of a step. -/
inductive NodeTest where
  | name (test : NameTest)
  | kind (test : KindTest)
  deriving DecidableEq, Repr

namespace NodeTest

/-- The test for a written name, where a star means any name. -/
def ofText (s : String) : NodeTest :=
  if s == "*" then .name .any else .name (.named (QName.ofText s))

def render : NodeTest → String
  | name .any => "*"
  | name (.named q) => q.text
  | kind test => test.render

end NodeTest

end Grove

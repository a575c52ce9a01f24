/-
The nodes of a tree. All nodes of one tree stand in one array, in document
order; the root is node 0, and nodes refer to each other by their place in the
array.
-/
import Grove.Name
import Grove.Table

namespace Grove

/-- What a node is. -/
inductive NodeKind where
  | document
  | fragment
  | element
  | attr
  | text
  | comment
  | instruction
  /-- A namespace that an element declares. -/
  | binding
  deriving DecidableEq, Repr

namespace NodeKind

def all : List NodeKind :=
  [document, fragment, element, attr, text, comment, instruction, binding]

def name : NodeKind → String
  | document => "document"
  | fragment => "fragment"
  | element => "element"
  | attr => "attribute"
  | text => "text"
  | comment => "comment"
  | instruction => "pi"
  | binding => "namespace"

/-- Whether nodes of the kind are roots. -/
def isRoot : NodeKind → Bool
  | document | fragment => true
  | _ => false

end NodeKind

/-- A node with its place in the tree. -/
structure Node where
  kind : NodeKind
  name : Option QName := none
  value : Option String := none
  parent : Option Nat := none
  children : Array Nat := #[]
  attributes : Array Nat := #[]
  bindings : Array Nat := #[]
  /-- Whether the node is an attribute whose value identifies its element. -/
  isId : Bool := false
  deriving DecidableEq, Repr

namespace Node

def isText (n : Node) : Bool := n.kind == .text

/-- The value, empty where there is none. -/
def valueText (n : Node) : String := n.value.getD ""

/-- Adds a node of the given kind to the list it belongs in. -/
def adopt (n : Node) (kind : NodeKind) (i : Nat) : Node :=
  match kind with
  | .attr => { n with attributes := n.attributes.push i }
  | .binding => { n with bindings := n.bindings.push i }
  | _ => { n with children := n.children.push i }

/-- Adds to the end of the value. -/
def extend (n : Node) (text : String) : Node := { n with value := some (n.valueText ++ text) }

end Node

/-- A declared entity that is not parsed. -/
structure Entity where
  name : String
  publicId : Option String
  systemId : String
  notationName : Option String
  /-- The system identifier resolved against the base address. -/
  uri : String
  deriving DecidableEq, Repr

/-- The content of a model. -/
structure Tree where
  nodes : Array Node
  baseUri : Option String := none
  entities : Table String Entity := .empty
  /-- How many attributes identify their element. -/
  idAttributes : Nat := 0
  /-- The identifiers with the elements they identify, kept from the first time they
  are asked for until the tree grows. -/
  index : Option (List (String × Nat)) := none

namespace Tree

/-- A tree of a root alone. -/
def ofRoot (kind : NodeKind) : Tree := { nodes := #[{ kind }] }

def size (t : Tree) : Nat := t.nodes.size

def node? (t : Tree) (i : Nat) : Option Node := t.nodes[i]?

/-- Adds a node at the end of the array, below a node that is there. -/
def addNode (t : Tree) (parent : Nat) (n : Node) : Tree :=
  let i := t.size
  { t with nodes := (t.nodes.modify parent (·.adopt n.kind i)).push { n with parent := some parent } }

/-- The text node that is the last child of a node, if the last child is one. -/
def lastText? (t : Tree) (parent : Nat) : Option Nat := do
  let p ← t.node? parent
  let last ← p.children.back?
  let n ← t.node? last
  if n.isText then some last else none

/-- Adds to the value of a node. -/
def extendText (t : Tree) (i : Nat) (text : String) : Tree :=
  { t with nodes := t.nodes.modify i (·.extend text) }

@[simp] theorem size_ofRoot (kind : NodeKind) : (ofRoot kind).size = 1 := rfl

@[simp] theorem size_addNode (t : Tree) (parent : Nat) (n : Node) :
    (t.addNode parent n).size = t.size + 1 := by
  simp [addNode, size]

@[simp] theorem size_extendText (t : Tree) (i : Nat) (text : String) :
    (t.extendText i text).size = t.size := by
  simp [extendText, size]

end Tree

end Grove

/-
Models: a tree with an identity, so that its nodes have handles. Every question
about a node is asked by handle and fails for a handle of another model or one
beyond the end of the tree.
-/
import Grove.Error
import Grove.Tree.Walk
import Grove.Text.Quoted

namespace Grove

/-- A document or a fragment of one. Only fragments can grow. -/
structure Model where
  id : ModelId
  systemId : Option String := none
  isFragment : Bool := false
  tree : Tree

namespace Model

/-- A fragment of a root alone. -/
def emptyFragment (id : ModelId) : Model :=
  { id, isFragment := true, tree := Tree.ofRoot .fragment }

/-- How many nodes there are, attributes and declared namespaces included. -/
def size (m : Model) : Nat := m.tree.size

/-- The handle of a node. -/
def handle (m : Model) (i : Nat) : NodeHandle := .make m.id (UInt32.ofNat i)

def handles (m : Model) (is : List Nat) : List NodeHandle := is.map m.handle

/-- The root. -/
def document (m : Model) : NodeHandle := m.handle 0

def contains (m : Model) (h : NodeHandle) : Bool := h.model == m.id && h.index.toNat < m.size

/-- The number of the node a handle addresses. -/
def locate (m : Model) (h : NodeHandle) : Except TreeError Nat :=
  if m.contains h then .ok h.index.toNat else .error (.invalidHandle h)

/-- What a function of the node number answers for the node of a handle. -/
def ask {α : Type} (m : Model) (h : NodeHandle) (answer : Nat → α) : Except TreeError α :=
  (m.locate h).map answer

def kind (m : Model) (h : NodeHandle) : Except TreeError NodeKind :=
  m.ask h fun i => ((m.tree.node? i).map (·.kind)).getD .document

def name (m : Model) (h : NodeHandle) : Except TreeError (Option QName) := m.ask h m.tree.nameOf

def stringValue (m : Model) (h : NodeHandle) : Except TreeError String :=
  m.ask h m.tree.stringValueOf

def parent (m : Model) (h : NodeHandle) : Except TreeError (Option NodeHandle) :=
  m.ask h fun i => (m.tree.parentOf i).map m.handle

def children (m : Model) (h : NodeHandle) : Except TreeError (List NodeHandle) :=
  m.ask h fun i => m.handles (m.tree.childrenOf i)

def attributes (m : Model) (h : NodeHandle) : Except TreeError (List NodeHandle) :=
  m.ask h fun i => m.handles (m.tree.attributesOf i)

/-- The namespaces that an element declares. -/
def bindings (m : Model) (h : NodeHandle) : Except TreeError (List NodeHandle) :=
  m.ask h fun i => m.handles (m.tree.bindingsOf i)

/-- The first attribute of an element with the same name. -/
def attributeNamed (m : Model) (h : NodeHandle) (name : QName) :
    Except TreeError (Option NodeHandle) :=
  m.ask h fun i => (m.tree.attributeNamed i name).map m.handle

def nextSibling (m : Model) (h : NodeHandle) : Except TreeError (Option NodeHandle) :=
  m.ask h fun i => (m.tree.nextSibling i).map m.handle

def previousSibling (m : Model) (h : NodeHandle) : Except TreeError (Option NodeHandle) :=
  m.ask h fun i => (m.tree.previousSibling i).map m.handle

/-- The siblings after a node, the nearest first. -/
def followingSiblings (m : Model) (h : NodeHandle) : Except TreeError (List NodeHandle) :=
  m.ask h fun i => m.handles (Tree.itemsAfter i (m.tree.siblingList i))

/-- The siblings before a node, the nearest first. -/
def precedingSiblings (m : Model) (h : NodeHandle) : Except TreeError (List NodeHandle) :=
  m.ask h fun i =>
    let siblings := m.tree.siblingList i
    m.handles (if siblings.contains i then Tree.itemsBefore i siblings else [])

/-- The nodes below a node in document order, with or without the node. -/
def descendants (m : Model) (h : NodeHandle) (withSelf : Bool) :
    Except TreeError (List NodeHandle) :=
  m.ask h fun i => m.handles (if withSelf then m.tree.subtree i else m.tree.below i)

/-- The nodes above a node, the nearest first, with or without the node. -/
def ancestors (m : Model) (h : NodeHandle) (withSelf : Bool) :
    Except TreeError (List NodeHandle) :=
  m.ask h fun i => m.handles (if withSelf then i :: m.tree.ancestors i else m.tree.ancestors i)

/-- The element that an identifier identifies. -/
def elementById (m : Model) (id : String) : Option NodeHandle :=
  (m.tree.elementById id).map m.handle

/-- The resolved address of an entity. -/
def entityUri (m : Model) (name : String) : Option String :=
  (m.tree.entities.get? name).map (·.uri)

end Model

end Grove

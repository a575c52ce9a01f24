/-
Building a tree from events. A builder holds the tree so far and the elements
that are open; `refusal?` tells why it cannot take an event, `take` takes one
that is not refused, and `refuse` says what is left of one that is, which is
nothing unless the node numbers run out.
`Tree.checkpoint` and `Tree.rollback` undo what a builder has added below the
root of a tree.
-/
import Grove.Error
import Grove.Text.Bytes
import Grove.Tree.Event
import Grove.Tree.Node
import Grove.Url.Resolve

namespace Grove

/-- A tree under construction. -/
structure Builder where
  tree : Tree
  /-- The open elements, the innermost first. The root is not among them. -/
  openElements : List Nat := []
  /-- Whether a document has been started. -/
  started : Bool := false
  /-- Whether a document has been ended. -/
  ended : Bool := false

namespace Builder

/-- A builder that adds below the root of a tree. -/
def ofTree (tree : Tree) : Builder := { tree }

/-- The node that takes the next child. -/
def current (b : Builder) : Nat := b.openElements.headD 0

/-- Adds an attribute to an element. -/
def addAttribute (element : Nat) (t : Tree) (a : AttributeEvent) : Tree :=
  let isId := a.isId || a.name.isXmlId
  let t := t.addNode element { kind := .attr, name := some a.name, value := some a.value, isId }
  if isId then { t with idAttributes := t.idAttributes + 1 } else t

/-- Adds a declared namespace to an element. The local name of the node is the
qualifier that is declared. -/
def addBinding (element : Nat) (t : Tree) (n : BindingEvent) : Tree :=
  t.addNode element
    { kind := .binding, name := some ⟨n.qualifier, n.qualifier.getD "", none⟩, value := some n.uri }

/-- Adds an element with its attributes and then its declared namespaces. -/
def addElement (t : Tree) (parent : Nat) (name : QName) (attributes : List AttributeEvent)
    (bindings : List BindingEvent) : Tree :=
  let element := t.size
  let t := t.addNode parent { kind := .element, name := some name }
  let t := attributes.foldl (addAttribute element) t
  bindings.foldl (addBinding element) t

/-- Declares an entity. The first declaration of a name is binding. -/
def declareEntity (t : Tree) (name : String) (publicId : Option String) (systemId : String)
    (notationName : Option String) : Tree :=
  if t.entities.contains name then t
  else
    let uri := Url.resolve t.baseUri systemId
    { t with entities := t.entities.insert name { name, publicId, systemId, notationName, uri } }

/-- Adds text. Adjacent texts make one node, and an empty text makes none. -/
def addText (t : Tree) (parent : Nat) (text : String) : Tree :=
  if text.isEmpty then t
  else
    match t.lastText? parent with
    | some last => t.extendText last text
    | none => t.addNode parent { kind := .text, value := some text }

/-- How many nodes an event adds. -/
def addedNodes (b : Builder) : BuildEvent → Nat
  | .startElement _ attributes bindings => 1 + attributes.length + bindings.length
  | .characters text => if text.isEmpty || (b.tree.lastText? b.current).isSome then 0 else 1
  | .comment _ | .instruction _ _ => 1
  | _ => 0

/-- The failure of an event that adds nodes, if there is one: the document must not
have ended, and the nodes must have numbers left. -/
def refusalToAdd (b : Builder) (what : String) (event : BuildEvent) : Option TreeError :=
  if b.ended then some (.malformed (what ++ " after end of document"))
  else if b.tree.size + b.addedNodes event ≤ Nat.pow 2 nodeIndexBits then none
  else some (.malformed "tree model exceeds the node index space")

/-- Why an event cannot be taken now. -/
def refusal? (b : Builder) (event : BuildEvent) : Option TreeError :=
  match event with
  | .startDocument _ =>
    if b.started || b.tree.size > 1 then
      some (.malformed "start of document must be the first event")
    else none
  | .endDocument =>
    if b.openElements.isEmpty then none
    else some (.malformed "end of document with open elements")
  | .startElement _ _ _ => b.refusalToAdd "start element" event
  | .endElement =>
    if b.openElements.isEmpty then some (.malformed "end element without matching start element")
    else none
  | .characters _ => b.refusalToAdd "characters" event
  | .comment _ | .instruction _ _ => b.refusalToAdd "node" event
  | .entity _ _ _ _ => none

/-- Takes an event that is not refused. -/
def take (b : Builder) : BuildEvent → Builder
  | .startDocument baseUri => { b with started := true, tree := { b.tree with baseUri } }
  | .endDocument => { b with ended := true }
  | .startElement name attributes bindings =>
    let element := b.tree.size
    { b with
      tree := addElement b.tree b.current name attributes bindings
      openElements := element :: b.openElements }
  | .endElement => { b with openElements := b.openElements.tail }
  | .characters text => { b with tree := addText b.tree b.current text }
  | .comment text =>
    { b with tree := b.tree.addNode b.current { kind := .comment, value := some text } }
  | .instruction target data =>
    { b with
      tree := b.tree.addNode b.current
        { kind := .instruction, name := some (QName.plain target), value := some data } }
  | .entity name publicId systemId notationName =>
    { b with tree := declareEntity b.tree name publicId systemId notationName }

/-- What a refused event leaves behind. Nodes get their numbers one by one, so an
element whose nodes run out of numbers is there with those that got one, but it is
not open. -/
def refuse (b : Builder) : BuildEvent → Builder
  | .startElement name attributes bindings =>
    let room := Nat.pow 2 nodeIndexBits - b.tree.size
    if b.ended || room = 0 then b
    else
      { b with
        tree := addElement b.tree b.current name (attributes.take (room - 1))
          (bindings.take (room - 1 - attributes.length)) }
  | _ => b

/-- The tree, if no element is open. -/
def finish (b : Builder) : Except TreeError Tree :=
  match b.openElements with
  | [] => .ok b.tree
  | i :: _ =>
    let name := ((b.tree.node? i).bind (·.name)).elim "" QName.text
    .error (.malformed ("element <" ++ name ++ "> was never closed"))

end Builder

/-- What has to be known of a tree to undo a batch of events. -/
structure Checkpoint where
  size : Nat
  /-- How many children the root has. -/
  rootChildren : Nat
  /-- How many bytes the value of the last child of the root has if that is a text,
  which a batch may extend. -/
  rootText : Option Nat
  idAttributes : Nat
  baseUri : Option String
  entityNames : List String

namespace Tree

def checkpoint (t : Tree) : Checkpoint where
  size := t.size
  rootChildren := ((t.node? 0).map (·.children.size)).getD 0
  rootText := ((t.lastText? 0).bind t.node?).map (·.valueText.utf8ByteSize)
  idAttributes := t.idAttributes
  baseUri := t.baseUri
  entityNames := t.entities.keys

/-- Keeps the first children of a node. -/
def truncateChildren (t : Tree) (i count : Nat) : Tree :=
  { t with nodes := t.nodes.modify i fun n => { n with children := n.children.take count } }

/-- Cuts the value of the last child of a node to so many bytes. -/
def truncateLastChild (t : Tree) (i bytes : Nat) : Tree :=
  match (t.node? i).bind (·.children.back?) with
  | some last =>
    { t with nodes := t.nodes.modify last fun n =>
        { n with value := n.value.map (Text.firstBytes bytes) } }
  | none => t

/-- Undoes everything a builder has added since the checkpoint. -/
def rollback (t : Tree) (cp : Checkpoint) : Tree :=
  let t := { t with nodes := t.nodes.take cp.size }
  let t := t.truncateChildren 0 cp.rootChildren
  let t := match cp.rootText with
    | some bytes => t.truncateLastChild 0 bytes
    | none => t
  { t with
    idAttributes := cp.idAttributes
    baseUri := cp.baseUri
    entities := t.entities.filterKeys (cp.entityNames.contains ·) }

end Tree

end Grove

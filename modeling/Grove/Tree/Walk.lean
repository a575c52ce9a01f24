/-
Walking a tree by node numbers. A node comes after its parent in the array; the
walks down follow only children with larger numbers and the walk up only
parents with smaller ones, which is what makes them end on any array.
-/
import Grove.Text.Blank
import Grove.Tree.Node

namespace Grove.Tree

def childrenOf (t : Tree) (i : Nat) : List Nat := ((t.node? i).map (·.children.toList)).getD []

def attributesOf (t : Tree) (i : Nat) : List Nat :=
  ((t.node? i).map (·.attributes.toList)).getD []

def bindingsOf (t : Tree) (i : Nat) : List Nat := ((t.node? i).map (·.bindings.toList)).getD []

def parentOf (t : Tree) (i : Nat) : Option Nat := (t.node? i).bind (·.parent)

def nameOf (t : Tree) (i : Nat) : Option QName := (t.node? i).bind (·.name)

/-- The children that come after their parent in the array. -/
def laterChildren (t : Tree) (i : Nat) : List Nat :=
  (t.childrenOf i).filter fun c => i < c && c < t.size

theorem mem_laterChildren {t : Tree} {i c : Nat} (h : c ∈ t.laterChildren i) :
    i < c ∧ c < t.size := by
  simp [laterChildren] at h
  exact h.2

/-- A node and everything below it, in document order. Attributes and declared
namespaces are not below their element. -/
def subtree (t : Tree) (i : Nat) : List Nat :=
  i :: (t.laterChildren i).attach.flatMap fun ⟨c, _⟩ => t.subtree c
termination_by t.size - i
decreasing_by
  have := mem_laterChildren ‹c ∈ t.laterChildren i›
  omega

/-- Everything below a node, in document order. -/
def below (t : Tree) (i : Nat) : List Nat := (t.laterChildren i).flatMap t.subtree

/-- The nodes above a node, the nearest first. -/
def ancestors (t : Tree) (i : Nat) : List Nat :=
  match t.parentOf i with
  | none => []
  | some p => if p < i then p :: t.ancestors p else []
termination_by i

/-- The texts below a node, in document order, as one. Only elements are entered
on the way. -/
def textBelow (t : Tree) (i : Nat) : String :=
  String.join ((t.laterChildren i).attach.map fun ⟨c, _⟩ =>
    match t.node? c with
    | some n =>
      match n.kind with
      | .text => n.valueText
      | .element => t.textBelow c
      | _ => ""
    | none => "")
termination_by t.size - i
decreasing_by
  have := mem_laterChildren ‹c ∈ t.laterChildren i›
  omega

/-- The string value: of a root or an element the text below it, of any other
node its own value. -/
def stringValueOf (t : Tree) (i : Nat) : String :=
  match t.node? i with
  | none => ""
  | some n =>
    match n.kind with
    | .document | .fragment | .element => t.textBelow i
    | _ => n.valueText

/-- The item of a list before the first occurrence of another. -/
def itemBefore (x : Nat) : List Nat → Option Nat
  | a :: b :: rest => if a = x then none else if b = x then some a else itemBefore x (b :: rest)
  | _ => none

/-- The item of a list after the first occurrence of another. -/
def itemAfter (x : Nat) : List Nat → Option Nat
  | a :: rest => if a = x then rest.head? else itemAfter x rest
  | [] => none

/-- The children of the parent of a node, if the node is one of them. -/
def siblingList (t : Tree) (i : Nat) : List Nat :=
  match t.node? i with
  | none => []
  | some n =>
    match n.kind with
    | .attr | .binding => []
    | _ => (n.parent.map t.childrenOf).getD []

def nextSibling (t : Tree) (i : Nat) : Option Nat := itemAfter i (t.siblingList i)

def previousSibling (t : Tree) (i : Nat) : Option Nat := itemBefore i (t.siblingList i)

/-- The siblings before a node in a list, the nearest first. -/
def itemsBefore (x : Nat) (l : List Nat) : List Nat := (l.takeWhile (· ≠ x)).reverse

/-- The items of a list after the first occurrence of another. -/
def itemsAfter (x : Nat) (l : List Nat) : List Nat := (l.dropWhile (· ≠ x)).drop 1

/-- The first attribute of a node with the same name as the given one. -/
def attributeNamed (t : Tree) (i : Nat) (name : QName) : Option Nat :=
  (t.attributesOf i).find? fun a => (t.nameOf a).any (·.sameName name)

/-- The identifiers of a tree in document order, without the blanks around them,
each with the element it identifies. -/
def identifiers (t : Tree) : List (String × Nat) :=
  t.nodes.toList.filterMap fun n =>
    if n.kind == .attr && n.isId then
      match n.parent, n.value with
      | some owner, some value => some (Text.trim value, owner)
      | _, _ => none
    else none

/-- The identifiers as they are looked up: those that are kept, if any are. -/
def idIndex (t : Tree) : List (String × Nat) := t.index.getD t.identifiers

/-- The element that an identifier identifies: the first, if there are several. -/
def elementById (t : Tree) (id : String) : Option Nat :=
  (t.idIndex.find? (·.1 == id)).map (·.2)

/-- How many different identifiers there are. -/
def identifierCount (t : Tree) : Nat := (t.idIndex.map (·.1)).eraseDups.length

/-- The tree with the identifiers kept. -/
def keepIndex (t : Tree) : Tree := { t with index := some t.idIndex }

/-- The tree without kept identifiers. -/
def dropIndex (t : Tree) : Tree := { t with index := none }

/-- The entities in the order of their names. -/
def sortedEntities (t : Tree) : List Entity :=
  t.entities.values.mergeSort fun a b => a.name ≤ b.name

end Grove.Tree

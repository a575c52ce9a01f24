/-
The forest: all trees there are, and all managers. Models and managers are
referred to by their place; a tree stays where it is for good, also when no
manager knows it any more.
-/
import Grove.Forest.Manager

namespace Grove

/-- A reference to a manager. -/
structure ManagerRef where
  place : Nat
  deriving DecidableEq, Repr

/-- All trees and managers. -/
structure Forest where
  trees : Array Tree := #[]
  managers : Array Manager := #[]

namespace Forest

instance : Inhabited Forest := ⟨{}⟩

/-- The model a reference refers to, as it is now. -/
def model (f : Forest) (ref : ModelRef) : Model where
  id := ref.id
  systemId := ref.systemId
  isFragment := ref.isFragment
  tree := (f.trees[ref.place]?).getD (Tree.ofRoot .document)

/-- Plants a tree and gives a reference to it. -/
def plant (f : Forest) (m : Model) : ModelRef × Forest :=
  (⟨f.trees.size, m.id, m.systemId, m.isFragment⟩, { f with trees := f.trees.push m.tree })

/-- Puts a changed tree in its place. -/
def setTree (f : Forest) (ref : ModelRef) (t : Tree) : Forest :=
  { f with trees := f.trees.setIfInBounds ref.place t }

/-- The element that an identifier identifies in a model, which keeps its identifiers
from then on. -/
def elementById (f : Forest) (ref : ModelRef) (id : String) : Option NodeHandle × Forest :=
  let m := f.model ref
  (m.elementById id, f.setTree ref m.tree.keepIndex)

/-- How many different identifiers a model has, which it keeps from then on. -/
def buildIndex (f : Forest) (ref : ModelRef) : Nat × Forest :=
  let t := (f.model ref).tree
  (t.identifierCount, f.setTree ref t.keepIndex)

def manager? (f : Forest) (r : ManagerRef) : Option Manager := f.managers[r.place]?

def setManager (f : Forest) (r : ManagerRef) (m : Manager) : Forest :=
  { f with managers := f.managers.setIfInBounds r.place m }

/-- Takes a manager in and gives a reference to it. -/
def addManager (f : Forest) (m : Manager) : ManagerRef × Forest :=
  (⟨f.managers.size⟩, { f with managers := f.managers.push m })

/-- The model a handle belongs to, by reference. -/
def ownerRef (f : Forest) (r : ManagerRef) (h : NodeHandle) : Except TreeError ModelRef :=
  match (f.manager? r).bind (·.holder? h.model) with
  | some ref => if (f.model ref).contains h then .ok ref else .error (.invalidHandle h)
  | none => .error (.invalidHandle h)

/-- The model a handle belongs to. -/
def ownerOf (f : Forest) (r : ManagerRef) (h : NodeHandle) : Except TreeError Model :=
  (f.ownerRef r h).map f.model

/-- Releases a model to a manager and tells whether it was discarded. -/
def release (f : Forest) (r : ManagerRef) (ref : ModelRef) (force : Bool) : Bool × Forest :=
  match f.manager? r with
  | none => (true, f)
  | some m =>
    let (discarded, m) := m.release ref force
    (discarded, f.setManager r m)

end Forest

end Grove

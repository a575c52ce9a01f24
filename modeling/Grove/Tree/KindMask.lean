/-
Sets of node kinds as bits of one word. The bits have the values by which
document interfaces number the kinds.
-/
import Grove.Tree.Node

namespace Grove

/-- A set of node kinds. -/
structure KindMask where
  bits : UInt32
  deriving DecidableEq, Repr

namespace KindMask

def all : KindMask := ⟨0xFFFFFFFF⟩

def none : KindMask := ⟨0⟩

/-- The set of one kind. -/
def of : NodeKind → KindMask
  | .element => ⟨0x1⟩
  | .attr => ⟨0x2⟩
  | .text => ⟨0x4⟩
  | .instruction => ⟨0x40⟩
  | .comment => ⟨0x80⟩
  | .document => ⟨0x100⟩
  | .fragment => ⟨0x400⟩
  | .binding => ⟨0x1000⟩

def union (a b : KindMask) : KindMask := ⟨a.bits ||| b.bits⟩

/-- Whether a kind is in the set. -/
def shows (m : KindMask) (kind : NodeKind) : Bool := m.bits &&& (of kind).bits != 0

end KindMask

end Grove

/-
Well-formed trees. The root is node 0; every other node has a parent with a
smaller number and stands once in the list of the parent that its kind asks for;
the numbers are the order of a walk from the root; no text is empty and no two
neighbours are texts.

A node can be added below any node on the path from the last one to the root
(`Growing.addNode`); the texts below say what that does to each part of a node.
-/
import Mathlib.Data.List.Chain
import Grove.Proofs.Tree.Spans
import Grove.Tree.Walk

namespace Grove

/-- The lists in which a node keeps others. -/
inductive Place where
  | attributes
  | bindings
  | children
  deriving DecidableEq

/-- The list of its parent in which a node of the kind stands. -/
def NodeKind.place : NodeKind → Place
  | .attr => .attributes
  | .binding => .bindings
  | _ => .children

namespace Node

def listed (n : Node) : Place → List Nat
  | .attributes => n.attributes.toList
  | .bindings => n.bindings.toList
  | .children => n.children.toList

/-- A node that keeps no others. -/
def Bare (n : Node) : Prop := ∀ place, n.listed place = []

@[simp] theorem kind_adopt (n : Node) (kind : NodeKind) (i : Nat) :
    (n.adopt kind i).kind = n.kind := by
  cases kind <;> rfl

@[simp] theorem parent_adopt (n : Node) (kind : NodeKind) (i : Nat) :
    (n.adopt kind i).parent = n.parent := by
  cases kind <;> rfl

@[simp] theorem value_adopt (n : Node) (kind : NodeKind) (i : Nat) :
    (n.adopt kind i).value = n.value := by
  cases kind <;> rfl

theorem listed_adopt (n : Node) (kind : NodeKind) (i : Nat) (place : Place) :
    (n.adopt kind i).listed place =
      n.listed place ++ if kind.place = place then [i] else [] := by
  cases kind <;> cases place <;> simp [adopt, listed, NodeKind.place]

end Node

namespace Tree

def kindOf? (t : Tree) (i : Nat) : Option NodeKind := (t.node? i).map (·.kind)

/-- The value of a node, empty where there is none. -/
def valueOf (t : Tree) (i : Nat) : String := ((t.node? i).map (·.valueText)).getD ""

/-- One of the lists of a node. -/
def listed (t : Tree) (i : Nat) (place : Place) : List Nat :=
  ((t.node? i).map (·.listed place)).getD []

/-- The nodes directly below a node: its attributes, its namespaces, its children. -/
def members (t : Tree) (i : Nat) : List Nat :=
  t.listed i .attributes ++ t.listed i .bindings ++ t.listed i .children

/-- Whether a node is a text. -/
def IsText (t : Tree) (i : Nat) : Prop := t.kindOf? i = some .text

structure WellFormed (t : Tree) : Prop where
  /-- Node 0 is a root and has no parent. -/
  root : ∃ kind, t.kindOf? 0 = some kind ∧ kind.isRoot = true ∧ t.parentOf 0 = none
  /-- No other node is a root, and every other one has a parent before it. -/
  inner : ∀ i, 0 < i → i < t.size →
    ∃ kind p, t.kindOf? i = some kind ∧ kind.isRoot = false ∧ t.parentOf i = some p ∧ p < i
  /-- A list holds exactly the nodes of the parent whose kind asks for that list, each
  once. -/
  once : ∀ p place i, (t.listed p place).count i =
    if t.parentOf i = some p ∧ (t.kindOf? i).map (·.place) = some place then 1 else 0
  /-- Elements alone keep other nodes, but that the root has children. -/
  owner : ∀ p place, t.listed p place ≠ [] →
    t.kindOf? p = some .element ∨ p = 0 ∧ place = .children
  /-- The numbers are the order of a walk from the root. -/
  order : Spans t.members [0] 0 t.size
  /-- No text is empty. -/
  filled : ∀ i, t.IsText i → t.valueOf i ≠ ""
  /-- No two neighbours are texts. -/
  apart : ∀ p, (t.childrenOf p).IsChain fun a b => ¬(t.IsText a ∧ t.IsText b)

theorem listed_children (t : Tree) (i : Nat) : t.listed i .children = t.childrenOf i := rfl

/-! ## What a new node changes -/

variable {t : Tree} {p : Nat} {n : Node}

theorem node?_eq_none {i : Nat} (h : t.size ≤ i) : t.node? i = none := by
  simpa [node?, size] using h

theorem node?_addNode (i : Nat) : (t.addNode p n).node? i =
    if i = t.size then some { n with parent := some p }
    else if i = p then (t.node? i).map (·.adopt n.kind t.size) else t.node? i := by
  simp only [addNode, node?, size, Array.getElem?_push, Array.size_modify, Array.getElem?_modify]
  by_cases hip : i = p
  · simp only [hip, if_true]
  · have hpi : ¬p = i := fun h => hip h.symm
    simp only [hip, hpi, if_false]

theorem kindOf?_addNode (i : Nat) :
    (t.addNode p n).kindOf? i = if i = t.size then some n.kind else t.kindOf? i := by
  simp only [kindOf?, node?_addNode]
  split
  · rfl
  · split
    · rw [Option.map_map]; congr 1; funext a; simp
    · rfl

theorem parentOf_addNode (i : Nat) :
    (t.addNode p n).parentOf i = if i = t.size then some p else t.parentOf i := by
  simp only [parentOf, node?_addNode]
  split
  · rfl
  · split
    · rw [Option.bind_map]; congr 1; funext a; simp
    · rfl

theorem valueOf_addNode (i : Nat) :
    (t.addNode p n).valueOf i = if i = t.size then n.valueText else t.valueOf i := by
  simp only [valueOf, node?_addNode]
  split
  · rfl
  · split
    · rw [Option.map_map]; congr 2; funext a; simp [Node.valueText]
    · rfl

theorem listed_of_size_le {i : Nat} (h : t.size ≤ i) (place : Place) : t.listed i place = [] := by
  simp [listed, node?_eq_none h]

theorem members_of_size_le {i : Nat} (h : t.size ≤ i) : t.members i = [] := by
  simp [members, listed_of_size_le h]

theorem listed_addNode (hn : n.Bare) (hp : p < t.size) (i : Nat) (place : Place) :
    (t.addNode p n).listed i place =
      t.listed i place ++ if i = p ∧ n.kind.place = place then [t.size] else [] := by
  by_cases hi : i = t.size
  · have hne : ¬t.size = p := by omega
    have hold := listed_of_size_le (Nat.le_of_eq hi.symm) place
    rw [hold]
    simp only [listed, node?_addNode, hi, if_true, Option.map_some, Option.getD_some, hne,
      false_and, if_false]
    exact hn place
  · simp only [listed, node?_addNode, hi, if_false]
    by_cases hip : i = p
    · obtain ⟨old, hold⟩ : ∃ old, t.node? p = some old := ⟨_, Array.getElem?_eq_getElem hp⟩
      simp [hip, hold, Node.listed_adopt]
    · simp [hip]

theorem lt_size_of_kindOf? {i : Nat} {kind : NodeKind} (h : t.kindOf? i = some kind) :
    i < t.size := by
  by_contra hge
  simp [kindOf?, node?_eq_none (Nat.le_of_not_lt hge)] at h

/-- The lists of a node that come after a list of it are empty, so that what is put at
the end of the list comes last of all. -/
def Ends (t : Tree) (p : Nat) : Place → Prop
  | .attributes => t.listed p .bindings = [] ∧ t.listed p .children = []
  | .bindings => t.listed p .children = []
  | .children => True

theorem members_addNode (hn : n.Bare) (hp : p < t.size) (hends : t.Ends p n.kind.place) (i : Nat) :
    (t.addNode p n).members i = t.members i ++ if i = p then [t.size] else [] := by
  simp only [members, listed_addNode hn hp]
  by_cases hip : i = p
  · subst hip
    cases hplace : n.kind.place <;> rw [hplace] at hends <;> simp [Ends] at hends <;> simp [hends]
  · simp [hip]

theorem members_addNode_of_ne (hn : n.Bare) (hp : p < t.size) (hends : t.Ends p n.kind.place)
    {i : Nat} (hi : i ≠ p) : (t.addNode p n).members i = t.members i := by
  simp [members_addNode hn hp hends, hi]

theorem lastText?_eq_some_iff {i : Nat} :
    t.lastText? p = some i ↔ (t.childrenOf p).getLast? = some i ∧ t.IsText i := by
  simp only [lastText?, childrenOf, IsText, kindOf?]
  cases t.node? p with
  | none => simp
  | some a =>
    cases hlast : a.children.back? with
    | none => simp [hlast]
    | some last =>
      cases hnode : t.node? last with
      | none => simp [hlast, hnode]; rintro rfl; simp [hnode]
      | some b =>
        by_cases hb : b.kind = .text
        · simp [hlast, hnode, Node.isText, hb]; rintro rfl; simp [hnode, hb]
        · simp [hlast, hnode, Node.isText, hb]; rintro rfl; simp [hnode, hb]

namespace WellFormed

theorem lt_size_of_mem (h : t.WellFormed) {place : Place} {i : Nat} (hi : i ∈ t.listed p place) :
    i < t.size := by
  have hcount := h.once p place i
  have hpos := List.count_pos_iff.2 hi
  by_contra hge
  simp [parentOf, node?_eq_none (Nat.le_of_not_lt hge)] at hcount
  omega

theorem lt_size_of_mem_children (h : t.WellFormed) {i : Nat} (hi : i ∈ t.childrenOf p) :
    i < t.size := by
  rw [← listed_children] at hi
  exact h.lt_size_of_mem hi

theorem once_addNode (h : t.WellFormed) (hn : n.Bare) (hp : p < t.size) (q : Nat) (place : Place)
    (i : Nat) :
    ((t.addNode p n).listed q place).count i =
      if (t.addNode p n).parentOf i = some q ∧
        ((t.addNode p n).kindOf? i).map (·.place) = some place then 1 else 0 := by
  rw [listed_addNode hn hp, List.count_append, h.once, kindOf?_addNode, parentOf_addNode]
  by_cases his : i = t.size
  · subst his
    have hnone : t.parentOf t.size = none := by simp [parentOf, node?_eq_none]
    by_cases hq : q = p ∧ n.kind.place = place
    · simp [hnone, hq]
    · have hq' : ¬(p = q ∧ n.kind.place = place) := fun hpq => hq ⟨hpq.1.symm, hpq.2⟩
      simp [hnone, hq, hq']
  · have hs : t.size ≠ i := fun hs => his hs.symm
    by_cases hq : q = p ∧ n.kind.place = place
    · simp [hq, hs, his]
    · simp [hq, his]

/-- A text is put after what is not a text. -/
theorem apart_addNode (h : t.WellFormed) (hn : n.Bare) (hp : p < t.size)
    (htext : n.kind = .text → t.lastText? p = none) (q : Nat) :
    ((t.addNode p n).childrenOf q).IsChain
      fun a b => ¬((t.addNode p n).IsText a ∧ (t.addNode p n).IsText b) := by
  have hold : (t.childrenOf q).IsChain
      fun a b => ¬((t.addNode p n).IsText a ∧ (t.addNode p n).IsText b) := by
    refine (h.apart q).imp_of_mem_imp fun a b ha hb hab => ?_
    have has := (h.lt_size_of_mem_children ha).ne
    have hbs := (h.lt_size_of_mem_children hb).ne
    simpa [IsText, kindOf?_addNode, has, hbs] using hab
  rw [← listed_children, listed_addNode hn hp]
  by_cases hq : q = p ∧ n.kind.place = .children
  · rw [if_pos hq]
    refine hold.append (.singleton _) ?_
    rintro a ha b hb ⟨hta, htb⟩
    obtain rfl : t.size = b := by simpa using hb
    have hkind : n.kind = .text := by simpa [IsText, kindOf?_addNode] using htb
    have has := (h.lt_size_of_mem_children (List.mem_of_getLast? ha)).ne
    rw [IsText, kindOf?_addNode, if_neg has] at hta
    have hlast := lastText?_eq_some_iff.2 ⟨hq.1 ▸ ha, hta⟩
    simp [htext hkind] at hlast
  · rw [if_neg hq, List.append_nil]
    exact hold

end WellFormed

/-- A tree that can grow below the first node of a path from the last node to the
root. -/
structure Growing (t : Tree) (path : List Nat) : Prop where
  wellFormed : t.WellFormed
  trail : Trail t.members path
  elements : ∀ i ∈ path, i = 0 ∨ t.kindOf? i = some .element

namespace Growing

variable {rest path : List Nat}

theorem lt_size (h : t.Growing (p :: rest)) : p < t.size :=
  (h.trail.spans h.wellFormed.order).lt

theorem tail {c : Nat} (h : t.Growing (c :: p :: rest)) : t.Growing (p :: rest) :=
  ⟨h.wellFormed, h.trail.tail, fun i hi => h.elements i (by simp [hi])⟩

/-- Values matter only where they are texts. -/
theorem of_eq {t' : Tree} (h : t.Growing path) (hsize : t'.size = t.size)
    (hkind : t'.kindOf? = t.kindOf?) (hparent : t'.parentOf = t.parentOf)
    (hlisted : t'.listed = t.listed) (hfilled : ∀ i, t'.IsText i → t'.valueOf i ≠ "") :
    t'.Growing path := by
  have hwf := h.wellFormed
  have hmembers : t'.members = t.members := by
    funext i
    simp only [members, hlisted]
  refine ⟨⟨?_, ?_, ?_, ?_, ?_, hfilled, ?_⟩, ?_, ?_⟩
  · simpa only [hkind, hparent] using hwf.root
  · simpa only [hkind, hparent, hsize] using hwf.inner
  · simpa only [hkind, hparent, hlisted] using hwf.once
  · simpa only [hkind, hlisted] using hwf.owner
  · simpa only [hmembers, hsize] using hwf.order
  · simpa only [← listed_children, IsText, hkind, hlisted] using hwf.apart
  · simpa only [hmembers] using h.trail
  · simpa only [hkind] using h.elements

/-- Only the nodes matter. -/
theorem of_nodes {t' : Tree} (h : t.Growing path) (heq : t'.nodes = t.nodes) :
    t'.Growing path := by
  have hnode : t'.node? = t.node? := by
    funext i
    simp only [node?, heq]
  refine h.of_eq (by simp only [size, heq]) ?_ ?_ ?_ ?_
  · simp only [funext_iff, kindOf?, hnode, implies_true]
  · simp only [funext_iff, parentOf, hnode, implies_true]
  · simp only [funext_iff, listed, hnode, implies_true]
  · simpa only [IsText, kindOf?, valueOf, hnode] using h.wellFormed.filled

section AddNode

variable (h : t.Growing (p :: rest)) (hn : n.Bare) (hroot : n.kind.isRoot = false)
  (hplace : n.kind.place = .children ∨ t.kindOf? p = some .element)
  (hends : t.Ends p n.kind.place) (htext : n.kind = .text → n.valueText ≠ "" ∧ t.lastText? p = none)
include h hn hroot hplace hends htext

theorem wellFormed_addNode : (t.addNode p n).WellFormed := by
  have hp := h.lt_size
  have hwf := h.wellFormed
  have hsize : (t.addNode p n).size = t.size + 1 := size_addNode t p n
  refine ⟨?root, ?inner, ?once, ?owner, ?order, ?filled, ?apart⟩
  case root =>
    obtain ⟨kind, hkind, hr, hnone⟩ := hwf.root
    have hne : ¬0 = t.size := by omega
    exact ⟨kind, by simp [kindOf?_addNode, hne, hkind], hr, by simp [parentOf_addNode, hne, hnone]⟩
  case inner =>
    intro i h0 hi
    by_cases his : i = t.size
    · exact ⟨n.kind, p, by simp [kindOf?_addNode, his], hroot, by simp [parentOf_addNode, his],
        by omega⟩
    · obtain ⟨kind, q, hkind, hr, hq, hqi⟩ := hwf.inner i h0 (by omega)
      exact ⟨kind, q, by simp [kindOf?_addNode, his, hkind], hr,
        by simp [parentOf_addNode, his, hq], hqi⟩
  case once =>
    exact hwf.once_addNode hn hp
  case owner =>
    intro q place hne
    by_cases hq : q = p ∧ n.kind.place = place
    · obtain ⟨rfl, rfl⟩ := hq
      have hqs : q ≠ t.size := by omega
      rw [kindOf?_addNode, if_neg hqs]
      rcases hplace with hchild | helement
      · rcases h.elements q (by simp) with h0 | helement
        · exact .inr ⟨h0, hchild⟩
        · exact .inl helement
      · exact .inl helement
    · rw [listed_addNode hn hp, if_neg hq, List.append_nil] at hne
      have hqs : q ≠ t.size := fun hqs => hne (listed_of_size_le (by omega) place)
      rw [kindOf?_addNode, if_neg hqs]
      exact hwf.owner q place hne
  case order =>
    rw [hsize]
    refine h.trail.spans_grown hwf.order (fun x hx _ => members_addNode_of_ne hn hp hends hx)
      (by simp [members_addNode hn hp hends]) ?_
    have hps : t.size ≠ p := by omega
    simp [members_addNode hn hp hends, hps, members_of_size_le]
  case filled =>
    intro i hi
    rw [IsText, kindOf?_addNode] at hi
    rw [valueOf_addNode]
    split at hi
    · next his =>
      rw [if_pos his]
      exact (htext (by simpa using hi)).1
    · next his =>
      rw [if_neg his]
      exact hwf.filled i hi
  case apart =>
    exact hwf.apart_addNode hn hp fun hkind => (htext hkind).2

theorem addNode : (t.addNode p n).Growing (p :: rest) := by
  refine ⟨wellFormed_addNode h hn hroot hplace hends htext,
    h.trail.grown h.wellFormed.order fun x hx _ => members_addNode_of_ne hn h.lt_size hends hx,
    fun i hi => ?_⟩
  refine (h.elements i hi).imp id fun hel => ?_
  rw [kindOf?_addNode, if_neg (lt_size_of_kindOf? hel).ne]
  exact hel

/-- A new element is the next on the path. -/
theorem addNode_element (hel : n.kind = .element) :
    (t.addNode p n).Growing (t.size :: p :: rest) := by
  have hgrown := addNode h hn hroot hplace hends htext
  refine ⟨hgrown.wellFormed, h.trail.extended h.wellFormed.order
    (fun x hx _ => members_addNode_of_ne hn h.lt_size hends hx)
    (by simp [members_addNode hn h.lt_size hends]), fun i hi => ?_⟩
  rcases List.mem_cons.1 hi with rfl | hi
  · exact .inr (by simp [kindOf?_addNode, hel])
  · exact hgrown.elements i hi

end AddNode

end Growing

end Tree

end Grove

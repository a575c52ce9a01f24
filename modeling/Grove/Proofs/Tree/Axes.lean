/-
Axes. Each axis leads from a node to handles of the nodes that stand to it in the tree as the
axis says (`Model.Numbered.nodes_handle`). A node, the nodes above and below it and those
before and after it share nothing, and are all nodes of the model together, attributes and
namespaces apart (`Model.Reachable.axes_tile`).
-/
import Grove.Eval.Axis
import Grove.Proofs.Tree.Around
import Grove.Proofs.Tree.Handles

namespace Grove

/-- The nodes that an axis leads to, by number, the nearest first. -/
def Axis.numbers (t : Tree) (i : Nat) : Axis → List Nat
  | child => t.childrenOf i
  | descendant => t.below i
  | attr => t.attributesOf i
  | self => [i]
  | descendantOrSelf => t.subtree i
  | followingSibling => Tree.itemsAfter i (t.siblingList i)
  | following => t.after i
  | binding => t.bindingsOf i
  | parent => (t.parentOf i).toList
  | ancestor => t.ancestors i
  | precedingSibling =>
    if (t.siblingList i).contains i then Tree.itemsBefore i (t.siblingList i) else []
  | preceding => t.before i
  | ancestorOrSelf => i :: t.ancestors i

theorem Tree.lt_size_of_mem_ancestors {t : Tree} {i j : Nat} (hi : i < t.size)
    (hj : j ∈ t.ancestors i) : j < t.size := Nat.lt_trans (lt_of_mem_ancestors hj) hi

namespace Tree.WellFormed

variable {t : Tree} {i j : Nat}

/-- The siblings of a node are the children of some node, if there are any. -/
theorem siblingList_cases (t : Tree) (i : Nat) :
    t.siblingList i = [] ∨ ∃ p, t.siblingList i = t.childrenOf p := by
  unfold siblingList
  split
  next => exact .inl rfl
  next n _ =>
    split
    next => exact .inl rfl
    next => exact .inl rfl
    next =>
      cases n.parent with
      | none => exact .inl rfl
      | some p => exact .inr ⟨p, rfl⟩

theorem exists_siblingList_eq (hj : j ∈ t.siblingList i) : ∃ p, t.siblingList i = t.childrenOf p :=
  (siblingList_cases t i).resolve_left (List.ne_nil_of_mem hj)

theorem lt_size_of_mem_siblingList (h : t.WellFormed) (hj : j ∈ t.siblingList i) : j < t.size := by
  obtain ⟨p, hp⟩ := exists_siblingList_eq hj
  exact h.lt_size_of_mem_children (hp ▸ hj)

theorem lt_size_of_mem_below (h : t.WellFormed) (hj : j ∈ t.below i) : j < t.size :=
  (h.mem_below_iff.1 hj).1.lt_size

theorem lt_size_of_mem_subtree (h : t.WellFormed) (hi : i < t.size) (hj : j ∈ t.subtree i) :
    j < t.size := by
  rw [subtree_eq] at hj
  rcases List.mem_cons.1 hj with rfl | hj
  · exact hi
  · exact h.lt_size_of_mem_below hj

/-- An axis leads to nodes of the tree. -/
theorem lt_size_of_mem_numbers (h : t.WellFormed) (hi : i < t.size) {axis : Axis}
    (hj : j ∈ axis.numbers t i) : j < t.size := by
  cases axis with
  | child => exact h.lt_size_of_mem (p := i) (show j ∈ t.listed i .children from hj)
  | attr => exact h.lt_size_of_mem (p := i) (show j ∈ t.listed i .attributes from hj)
  | binding => exact h.lt_size_of_mem (p := i) (show j ∈ t.listed i .bindings from hj)
  | self =>
    obtain rfl := List.mem_singleton.1 hj
    exact hi
  | descendant => exact h.lt_size_of_mem_below hj
  | descendantOrSelf => exact h.lt_size_of_mem_subtree hi hj
  | parent =>
    have hp := Option.mem_toList.1 hj
    exact Nat.lt_trans (h.parentOf_lt hp) hi
  | ancestor => exact lt_size_of_mem_ancestors hi hj
  | ancestorOrSelf =>
    rcases List.mem_cons.1 hj with rfl | hj
    · exact hi
    · exact lt_size_of_mem_ancestors hi hj
  | followingSibling =>
    exact h.lt_size_of_mem_siblingList ((List.dropWhile_sublist _).subset (List.mem_of_mem_drop hj))
  | precedingSibling =>
    rw [Axis.numbers] at hj
    split at hj
    next =>
      exact h.lt_size_of_mem_siblingList ((List.takeWhile_sublist _).subset (List.mem_reverse.1 hj))
    next => simp at hj
  | following => exact ((h.mem_after_iff hi).1 hj).1.lt_size
  | preceding => exact ((h.mem_before_iff hi).1 hj).1.lt_size

theorem sorted_siblingList (h : t.WellFormed) (i : Nat) : (t.siblingList i).Pairwise (· < ·) := by
  rcases siblingList_cases t i with hnone | ⟨p, hp⟩
  · rw [hnone]
    exact .nil
  · rw [hp]
    exact h.sorted_childrenOf p

/-- An axis goes through the tree in the order of the numbers, or against it. -/
theorem sorted_numbers (h : t.WellFormed) (hi : i < t.size) (axis : Axis) :
    (axis.numbers t i).Pairwise fun x y => if axis.isReverse then y < x else x < y := by
  cases axis with
  | child => exact h.sorted_listed i .children
  | attr => exact h.sorted_listed i .attributes
  | binding => exact h.sorted_listed i .bindings
  | self => exact List.pairwise_singleton _ _
  | descendant => exact h.sorted_below hi
  | descendantOrSelf => exact h.sorted_subtree hi
  | parent =>
    rw [Axis.numbers]
    cases t.parentOf i with
    | none => exact .nil
    | some p => exact List.pairwise_singleton _ _
  | ancestor => exact t.sorted_ancestors i
  | ancestorOrSelf =>
    exact List.pairwise_cons.2 ⟨fun x hx => lt_of_mem_ancestors hx, t.sorted_ancestors i⟩
  | followingSibling =>
    exact (h.sorted_siblingList i).sublist ((List.drop_sublist _ _).trans (List.dropWhile_sublist _))
  | precedingSibling =>
    by_cases hin : (t.siblingList i).contains i
    · rw [Axis.numbers, if_pos hin]
      exact List.pairwise_reverse.2 ((h.sorted_siblingList i).sublist (List.takeWhile_sublist _))
    · rw [Axis.numbers, if_neg hin]
      exact .nil
  | following => exact h.sorted_after i
  | preceding => exact h.sorted_before i

theorem nodup_numbers (h : t.WellFormed) (hi : i < t.size) (axis : Axis) :
    (axis.numbers t i).Nodup := by
  refine (h.sorted_numbers hi axis).imp fun hxy => ?_
  split at hxy
  · exact (Nat.ne_of_lt hxy).symm
  · exact Nat.ne_of_lt hxy

end Tree.WellFormed

namespace Model

variable {m : Model} {h : NodeHandle} {i j x y : Nat} {is js : List Nat}

namespace Numbered

theorem mem_handles_iff (hm : m.Numbered) (his : ∀ j ∈ is, j < m.size) (hx : x < m.size) :
    m.handle x ∈ m.handles is ↔ x ∈ is := by
  rw [handles, List.mem_map]
  constructor
  · rintro ⟨j, hj, heq⟩
    obtain rfl := (hm.handle_inj (his j hj) hx).1 heq
    exact hj
  · exact fun hmem => ⟨x, hmem, rfl⟩

theorem followingNodes_handle (hm : m.Numbered) (hi : i < m.size) :
    Axis.followingNodes m (m.handle i) = .ok (m.handles (m.tree.after i)) := by
  have hroot : 0 < m.size := by omega
  have hlast : (m.handles (m.tree.below i)).getLast?.getD (m.handle i) = m.handle (m.tree.lastBelow i) := by
    rw [handles, List.getLast?_map, Tree.lastBelow]
    cases (m.tree.below i).getLast? <;> rfl
  have hlastlt : m.tree.lastBelow i < m.size := by
    rcases hm.wellFormed.mem_subtree_iff.1 (Tree.lastBelow_mem m.tree i) with heq | ⟨hwithin, -⟩
    · rw [heq]
      exact hi
    · exact hwithin.lt_size
  have hfilter : (m.handles (m.tree.below 0)).filter (m.handle (m.tree.lastBelow i)).precedes =
      m.handles (m.tree.after i) := by
    rw [handles, List.filter_map, Tree.after]
    congr 1
    refine List.filter_congr fun x hx => ?_
    exact hm.precedes_handle hlastlt (hm.wellFormed.lt_size_of_mem_below hx)
  unfold Axis.followingNodes
  rw [descendants, hm.ask_handle hi, descendants, document, hm.ask_handle hroot]
  simp only [Bool.false_eq_true, if_false]
  rw [← hfilter, ← hlast]
  rfl

theorem precedingNodes_handle (hm : m.Numbered) (hi : i < m.size) :
    Axis.precedingNodes m (m.handle i) = .ok (m.handles (m.tree.before i)) := by
  have hroot : 0 < m.size := by omega
  have hfilter : ((m.handles (m.tree.below 0)).filter fun n => n.precedes (m.handle i) &&
      !(m.handles (m.tree.ancestors i)).contains n).reverse = m.handles (m.tree.before i) := by
    show (((m.tree.below 0).map m.handle).filter _).reverse = (m.tree.before i).map m.handle
    rw [List.filter_map, Tree.before, List.map_reverse]
    congr 2
    refine List.filter_congr fun x hx => ?_
    have hx := hm.wellFormed.lt_size_of_mem_below hx
    have hmem := hm.mem_handles_iff (fun _ => Tree.lt_size_of_mem_ancestors hi) hx
    simp only [Function.comp_apply, hm.precedes_handle hx hi, List.contains_eq_mem, hmem]
  unfold Axis.precedingNodes
  rw [ancestors, hm.ask_handle hi, descendants, document, hm.ask_handle hroot]
  simp only [Bool.false_eq_true, if_false]
  rw [← hfilter]
  rfl

/-- An axis leads to the nodes that stand to a node as it says. -/
theorem nodes_handle (hm : m.Numbered) (hi : i < m.size) (axis : Axis) :
    axis.nodes m (m.handle i) = .ok (m.handles (axis.numbers m.tree i)) := by
  cases axis with
  | self => rfl
  | following => exact hm.followingNodes_handle hi
  | preceding => exact hm.precedingNodes_handle hi
  | parent =>
    simp only [Axis.nodes, parent, hm.ask_handle hi, Axis.numbers]
    cases m.tree.parentOf i <;> rfl
  | _ => exact hm.ask_handle hi _

/-! ## Tiling -/

theorem kind_handle (hm : m.Numbered) {kind : NodeKind} (hkind : m.tree.kindOf? i = some kind) :
    m.kind (m.handle i) = .ok kind := by
  rw [Model.kind, hm.ask_handle (Tree.lt_size_of_kindOf? hkind)]
  show Except.ok ((m.tree.kindOf? i).getD .document) = _
  rw [hkind]
  rfl

end Numbered

theorem exists_of_kind {kind : NodeKind} (hkind : m.kind h = .ok kind) :
    ∃ i, h = m.handle i ∧ m.tree.kindOf? i = some kind := by
  obtain ⟨i, hi, hh, hget⟩ := exists_of_ask hkind
  obtain ⟨n, hn⟩ : ∃ n, m.tree.node? i = some n := ⟨_, Array.getElem?_eq_getElem hi⟩
  rw [hn] at hget
  refine ⟨i, hh, ?_⟩
  rw [Tree.kindOf?, hn]
  exact congrArg some hget

/-- Whether a handle is that of a node which is neither an attribute nor a namespace. -/
def IsTreeNode (m : Model) (h : NodeHandle) : Prop :=
  ∃ kind, m.kind h = .ok kind ∧ kind ≠ .attr ∧ kind ≠ .binding

theorem place_eq_children_iff {kind : NodeKind} : kind.place = .children ↔ kind ≠ .attr ∧ kind ≠ .binding := by
  cases kind <;> simp [NodeKind.place]

theorem isTreeNode_iff (hm : m.Numbered) : m.IsTreeNode h ↔ ∃ i, m.tree.Within i ∧ h = m.handle i := by
  constructor
  · rintro ⟨kind, hkind, hplace⟩
    obtain ⟨i, rfl, hkindOf⟩ := exists_of_kind hkind
    exact ⟨i, Option.map_eq_some_iff.2 ⟨kind, hkindOf, place_eq_children_iff.2 hplace⟩, rfl⟩
  · rintro ⟨i, hwithin, rfl⟩
    obtain ⟨kind, hkind, hplace⟩ := Option.map_eq_some_iff.1 hwithin
    exact ⟨kind, hm.kind_handle hkind, place_eq_children_iff.1 hplace⟩

end Model

/-- Lists that share nothing and have all of something among them. -/
structure Tiles {α : Type} (parts : List (List α)) (whole : α → Prop) : Prop where
  apart : parts.Pairwise List.Disjoint
  covers : ∀ x, (∃ part ∈ parts, x ∈ part) ↔ whole x

theorem Tiles.cons {α : Type} {part : List α} {parts : List (List α)} {whole : α → Prop}
    (h : Tiles parts fun x => whole x ∧ x ∉ part) (hpart : ∀ x ∈ part, whole x) :
    Tiles (part :: parts) whole := by
  refine ⟨List.pairwise_cons.2 ⟨fun other hother x hx hxo => ?_, h.apart⟩, fun x => ?_⟩
  · exact ((h.covers x).1 ⟨other, hother, hxo⟩).2 hx
  · have hcovers := h.covers x
    simp only [List.mem_cons, exists_eq_or_imp, hcovers]
    constructor
    · rintro (hx | ⟨hx, -⟩)
      · exact hpart x hx
      · exact hx
    · intro hx
      by_cases hmem : x ∈ part
      · exact .inl hmem
      · exact .inr ⟨hx, hmem⟩

/-- Whether an axis leads from one node to another. -/
def Axis.Leads (axis : Axis) (m : Model) (x y : NodeHandle) : Prop :=
  ∃ l, axis.nodes m x = .ok l ∧ y ∈ l

namespace Tree.WellFormed

variable {t : Tree} {i x : Nat}

theorem le_of_mem_subtree (h : t.WellFormed) (hx : x ∈ t.subtree i) : i ≤ x := by
  rcases h.mem_subtree_iff.1 hx with rfl | ⟨-, hix⟩
  · exact Nat.le_refl _
  · exact (lt_of_mem_ancestors hix).le

/-- The nodes above a node and those around it are all nodes but it and those below it. -/
theorem tiles_around (h : t.WellFormed) (hi : i < t.size) :
    Tiles [t.ancestors i, t.before i, t.after i] fun x => t.Within x ∧ x ∉ t.subtree i := by
  have habove : ∀ x ∈ t.ancestors i, x < i := fun x hx => lt_of_mem_ancestors hx
  have hbefore := fun x => h.mem_before_iff (x := x) hi
  have hafter := fun x => h.mem_after_iff (x := x) hi
  have hsubtree := fun x => h.mem_subtree_iff (x := x) (i := i)
  have hsmaller : ∀ x < i, x ∉ t.subtree i := fun x hlt hx =>
    absurd (h.le_of_mem_subtree hx) (by omega)
  refine ⟨?apart, fun x => ⟨?covered, ?found⟩⟩
  case apart =>
    simp only [List.pairwise_cons, List.mem_cons, List.Disjoint, hbefore, hafter]
    grind
  case covered =>
    rintro ⟨part, hpart, hx⟩
    simp only [List.mem_cons, List.not_mem_nil, or_false] at hpart
    rcases hpart with rfl | rfl | rfl
    · exact ⟨h.within_of_mem_ancestors hx, hsmaller x (habove x hx)⟩
    · obtain ⟨hwithin, hlt, -⟩ := (hbefore x).1 hx
      exact ⟨hwithin, hsmaller x hlt⟩
    · obtain ⟨hwithin, hlt, hnot⟩ := (hafter x).1 hx
      refine ⟨hwithin, fun hx => ?_⟩
      rcases (hsubtree x).1 hx with rfl | ⟨-, hix⟩
      · omega
      · exact hnot hix
  case found =>
    rintro ⟨hwithin, hout⟩
    rw [hsubtree, not_or] at hout
    rcases Nat.lt_or_gt_of_ne hout.1 with hlt | hlt
    · by_cases hx : x ∈ t.ancestors i
      · exact ⟨_, by simp, hx⟩
      · exact ⟨_, by simp, (hbefore x).2 ⟨hwithin, hlt, hx⟩⟩
    · exact ⟨_, by simp, (hafter x).2 ⟨hwithin, hlt, fun hix => hout.2 ⟨hwithin, hix⟩⟩⟩

/-- Nothing is below an attribute or a namespace. -/
theorem tiles_of_not_within (h : t.WellFormed) (hi : i < t.size) (hout : ¬t.Within i) :
    Tiles [t.ancestors i, t.before i, t.after i] t.Within := by
  have hnone : ∀ x, t.Within x ∧ x ∉ t.subtree i ↔ t.Within x := by
    refine fun x => and_iff_left_of_imp fun hx hmem => ?_
    rcases h.mem_subtree_iff.1 hmem with rfl | ⟨-, hix⟩
    · exact hout hx
    · exact hout (h.within_of_mem_ancestors hix)
  simpa only [hnone] using h.tiles_around hi

theorem tiles_of_within (h : t.WellFormed) (hi : t.Within i) :
    Tiles [[i], t.below i, t.ancestors i, t.before i, t.after i] t.Within := by
  have hrest : ∀ x, (t.Within x ∧ x ∉ [i]) ∧ x ∉ t.below i ↔ t.Within x ∧ x ∉ t.subtree i := by
    intro x
    rw [List.mem_singleton, subtree_eq, List.mem_cons, not_or, and_assoc]
  have hbelow : ∀ x ∈ t.below i, t.Within x ∧ x ∉ [i] := by
    intro x hx
    obtain ⟨hwithin, hix⟩ := h.mem_below_iff.1 hx
    have hlt := lt_of_mem_ancestors hix
    exact ⟨hwithin, by simp; omega⟩
  have haround := h.tiles_around hi.lt_size
  simp only [← hrest] at haround
  exact (haround.cons hbelow).cons (by simpa using hi)

end Tree.WellFormed

namespace Model

variable {m : Model} {h : NodeHandle} {parts : List (List Nat)}

theorem Numbered.tiles_handles (hm : m.Numbered) (h : Tiles parts m.tree.Within) :
    Tiles (parts.map m.handles) m.IsTreeNode := by
  have hlt : ∀ part ∈ parts, ∀ x ∈ part, x < m.size := fun part hpart x hx =>
    ((h.covers x).1 ⟨part, hpart, hx⟩).lt_size
  refine ⟨List.pairwise_map.2 (h.apart.imp_of_mem fun hp hq hdisjoint => ?_), fun n => ?_⟩
  · intro n hn hn'
    obtain ⟨x, hx, rfl⟩ := List.mem_map.1 hn
    exact hdisjoint hx ((hm.mem_handles_iff (hlt _ hq) (hlt _ hp x hx)).1 hn')
  · rw [isTreeNode_iff hm]
    simp only [← h.covers, handles, List.mem_map, exists_exists_and_eq_and]
    constructor
    · rintro ⟨part, hpart, x, hx, rfl⟩
      exact ⟨x, ⟨part, hpart, hx⟩, rfl⟩
    · rintro ⟨x, ⟨part, hpart, hx⟩, rfl⟩
      exact ⟨part, hpart, x, hx, rfl⟩

theorem Numbered.leads_handle_iff (hm : m.Numbered) {axis : Axis} {i j : Nat} (hi : i < m.size)
    (hj : j < m.size) :
    axis.Leads m (m.handle i) (m.handle j) ↔ j ∈ axis.numbers m.tree i := by
  have hnodes := hm.nodes_handle hi axis
  rw [← hm.mem_handles_iff (fun _ => hm.wellFormed.lt_size_of_mem_numbers hi) hj]
  constructor
  · rintro ⟨l, hl, hmem⟩
    obtain rfl : m.handles (axis.numbers m.tree i) = l := by simpa [hnodes] using hl
    exact hmem
  · exact fun hmem => ⟨_, hnodes, hmem⟩

/-- From every node, all axes lead somewhere; the node, those below and above it and those
before and after it tile the model, but for attributes and namespaces, and around an attribute
or a namespace those above, before and after it do; and one node is after another if that one
is before it. -/
theorem Reachable.axes_tile (hm : m.Reachable) :
    (∀ n kind, m.kind n = .ok kind → ∃ on : Axis → List NodeHandle,
      (∀ axis : Axis, axis.nodes m n = .ok (on axis)) ∧
      (kind ≠ .attr ∧ kind ≠ .binding →
        Tiles ([.self, .descendant, .ancestor, .preceding, .following].map on) m.IsTreeNode) ∧
      (kind = .attr ∨ kind = .binding →
        Tiles ([.ancestor, .preceding, .following].map on) m.IsTreeNode)) ∧
    ∀ x y, m.IsTreeNode x → m.IsTreeNode y →
      (Axis.following.Leads m x y ↔ Axis.preceding.Leads m y x) := by
  have hn := hm.numbered
  have hwf := hm.wellFormed
  constructor
  · intro n kind hkind
    obtain ⟨i, rfl, hkindOf⟩ := exists_of_kind hkind
    have hi := Tree.lt_size_of_kindOf? hkindOf
    have hwithin : m.tree.Within i ↔ kind ≠ .attr ∧ kind ≠ .binding := by
      rw [Tree.Within, hkindOf, Option.map_some, Option.some_inj, place_eq_children_iff]
    refine ⟨fun axis => m.handles (axis.numbers m.tree i), hn.nodes_handle hi, fun hplace => ?_,
      fun hplace => ?_⟩
    · exact hn.tiles_handles (hwf.tiles_of_within (hwithin.2 hplace))
    · refine hn.tiles_handles (hwf.tiles_of_not_within hi fun hin => ?_)
      exact hplace.elim (hwithin.1 hin).1 (hwithin.1 hin).2
  · intro x y hx hy
    obtain ⟨i, hi, rfl⟩ := (isTreeNode_iff hn).1 hx
    obtain ⟨j, hj, rfl⟩ := (isTreeNode_iff hn).1 hy
    rw [hn.leads_handle_iff hi.lt_size hj.lt_size, hn.leads_handle_iff hj.lt_size hi.lt_size]
    exact hwf.mem_after_comm hi hj

/-- The element of the uneven batch, and its attribute. -/
theorem Reachable.axes_tile_uneven :
    ∃ m : Model, m.Reachable ∧
      (∃ on : Axis → List NodeHandle, (∀ axis : Axis, axis.nodes m (m.handle 2) = .ok (on axis)) ∧
        Tiles ([.self, .descendant, .ancestor, .preceding, .following].map on) m.IsTreeNode) ∧
      (∃ on : Axis → List NodeHandle, (∀ axis : Axis, axis.nodes m (m.handle 3) = .ok (on axis)) ∧
        Tiles ([.ancestor, .preceding, .following].map on) m.IsTreeNode) ∧
      (Axis.following.Leads m (m.handle 1) (m.handle 5) ↔
        Axis.preceding.Leads m (m.handle 5) (m.handle 1)) := by
  have h : Reachable ((emptyFragment ⟨0⟩).append unevenBatch).2 := .append _ (.fragment _)
  generalize hm : ((emptyFragment ⟨0⟩).append unevenBatch).2 = m at h
  obtain ⟨htile, hcomm⟩ := h.axes_tile
  have helement : m.kind (m.handle 2) = .ok .element := by rw [← hm]; rfl
  have hattr : m.kind (m.handle 3) = .ok .attr := by rw [← hm]; rfl
  have hfirst : m.kind (m.handle 1) = .ok .text := by rw [← hm]; rfl
  have htext : m.kind (m.handle 5) = .ok .text := by rw [← hm]; rfl
  obtain ⟨on, hnodes, htiles, -⟩ := htile _ _ helement
  obtain ⟨on', hnodes', -, htiles'⟩ := htile _ _ hattr
  exact ⟨m, h, ⟨on, hnodes, htiles (by decide)⟩, ⟨on', hnodes', htiles' (by decide)⟩,
    hcomm _ _ ⟨_, hfirst, by decide⟩ ⟨_, htext, by decide⟩⟩

end Model

end Grove

/-
What is below a node. Attributes and namespaces are numbered with the nodes of the walk down
the children, but they are no part of it: below a node are those nodes that have it above them
and stand among the children of their parents (`WellFormed.mem_subtree_iff`), in the order of
their numbers (`WellFormed.sorted_subtree`).
-/
import Grove.Proofs.Tree.Report

namespace Grove

namespace Tree

variable {t : Tree} {c i j k p x y : Nat} {l : List Nat}

/-- Whether a node is there and is neither an attribute nor a namespace. -/
def Within (t : Tree) (i : Nat) : Prop := (t.kindOf? i).map (·.place) = some .children

theorem Within.lt_size (h : t.Within i) : i < t.size := by
  obtain ⟨kind, hkind, -⟩ := Option.map_eq_some_iff.1 h
  exact lt_size_of_kindOf? hkind

theorem subtree_eq (t : Tree) (i : Nat) : t.subtree i = i :: t.below i := by
  rw [subtree, below]
  simp

namespace WellFormed

theorem within_zero (h : t.WellFormed) : t.Within 0 := by
  obtain ⟨kind, hkind, hroot, -⟩ := h.root
  cases kind <;> simp [NodeKind.isRoot] at hroot <;> simp [Within, hkind, NodeKind.place]

theorem mem_childrenOf_iff_within (h : t.WellFormed) :
    i ∈ t.childrenOf p ↔ t.parentOf i = some p ∧ t.Within i := h.mem_childrenOf_iff

/-- What has a node below it is an element or the root. -/
theorem within_of_parentOf (h : t.WellFormed) (hp : t.parentOf i = some p) : t.Within p := by
  obtain ⟨n, hn, -⟩ := Option.bind_eq_some_iff.1 hp
  have hlisted : i ∈ t.listed p n.kind.place := by
    rw [h.mem_listed_iff]
    exact ⟨hp, by simp [kindOf?, hn]⟩
  rcases h.owner p n.kind.place (List.ne_nil_of_mem hlisted) with helement | ⟨rfl, -⟩
  · simp [Within, helement, NodeKind.place]
  · exact h.within_zero

theorem exists_parentOf (h : t.WellFormed) (hpos : 0 < i) (hi : i < t.size) :
    ∃ p, t.parentOf i = some p := by
  obtain ⟨_, p, _, _, hp, _⟩ := h.inner i hpos hi
  exact ⟨p, hp⟩

theorem ancestors_of_parentOf (h : t.WellFormed) (hp : t.parentOf i = some p) :
    t.ancestors i = p :: t.ancestors p := by
  rw [ancestors, hp]
  simp [h.parentOf_lt hp]

theorem within_of_mem_ancestors (h : t.WellFormed) (hx : x ∈ t.ancestors i) : t.Within x := by
  induction i using Nat.strongRecOn with
  | ind i ih =>
    cases hp : t.parentOf i with
    | none =>
      rw [ancestors, hp] at hx
      simp at hx
    | some p =>
      rcases (h.mem_ancestors_iff hp).1 hx with rfl | hx
      · exact h.within_of_parentOf hp
      · exact ih p (h.parentOf_lt hp) hx

/-- The root is above all other nodes. -/
theorem zero_mem_ancestors (h : t.WellFormed) (hpos : 0 < i) (hi : i < t.size) :
    0 ∈ t.ancestors i := by
  induction i using Nat.strongRecOn with
  | ind i ih =>
    obtain ⟨p, hp⟩ := h.exists_parentOf hpos hi
    have hpi := h.parentOf_lt hp
    rw [h.mem_ancestors_iff hp]
    rcases Nat.eq_zero_or_pos p with rfl | hpos
    · exact .inl rfl
    · exact .inr (ih p hpi hpos (by omega))

/-- A node that is above another is, or is above, a child that is. -/
theorem exists_child (h : t.WellFormed) (hx : t.Within x) (hi : i ∈ t.ancestors x) :
    ∃ c ∈ t.childrenOf i, x = c ∨ c ∈ t.ancestors x := by
  induction x using Nat.strongRecOn with
  | ind x ih =>
    cases hp : t.parentOf x with
    | none =>
      rw [ancestors, hp] at hi
      simp at hi
    | some p =>
      rcases (h.mem_ancestors_iff hp).1 hi with rfl | hi
      · exact ⟨x, h.mem_childrenOf_iff_within.2 ⟨hp, hx⟩, .inl rfl⟩
      · obtain ⟨c, hc, hpc⟩ := ih p (h.parentOf_lt hp) (h.within_of_parentOf hp) hi
        refine ⟨c, hc, .inr ?_⟩
        rw [h.mem_ancestors_iff hp]
        exact hpc.imp_left Eq.symm

theorem below_eq (h : t.WellFormed) (i : Nat) : t.below i = (t.childrenOf i).flatMap t.subtree := by
  rw [below, h.laterChildren_eq]

/-- Below a node are the nodes that have it above them, attributes and namespaces apart. -/
theorem mem_subtree_iff (h : t.WellFormed) :
    x ∈ t.subtree i ↔ x = i ∨ t.Within x ∧ i ∈ t.ancestors x := by
  induction hn : t.size - i using Nat.strongRecOn generalizing i with
  | ind n ih =>
    have hchild : ∀ c ∈ t.childrenOf i,
        (x ∈ t.subtree c ↔ x = c ∨ t.Within x ∧ c ∈ t.ancestors x) := by
      intro c hc
      have hic := h.lt_of_mem_childrenOf hc
      have hcs := h.lt_size_of_mem_children hc
      exact ih _ (by omega) rfl
    rw [subtree_eq, List.mem_cons, h.below_eq, List.mem_flatMap]
    refine or_congr_right ⟨?_, ?_⟩
    · rintro ⟨c, hc, hx⟩
      obtain ⟨hpc, hwithin⟩ := h.mem_childrenOf_iff_within.1 hc
      have hic : i ∈ t.ancestors c := (h.mem_ancestors_iff hpc).2 (.inl rfl)
      rcases (hchild c hc).1 hx with rfl | ⟨hx, hcx⟩
      · exact ⟨hwithin, hic⟩
      · exact ⟨hx, mem_ancestors_trans hic hcx⟩
    · rintro ⟨hx, hix⟩
      obtain ⟨c, hc, hxc⟩ := h.exists_child hx hix
      exact ⟨c, hc, (hchild c hc).2 (hxc.imp_right fun hcx => ⟨hx, hcx⟩)⟩

theorem mem_below_iff (h : t.WellFormed) : x ∈ t.below i ↔ t.Within x ∧ i ∈ t.ancestors x := by
  have hsubtree := h.mem_subtree_iff (x := x) (i := i)
  rw [subtree_eq, List.mem_cons] at hsubtree
  constructor
  · intro hx
    rcases hsubtree.1 (.inr hx) with rfl | hx
    · rw [h.below_eq, List.mem_flatMap] at hx
      obtain ⟨c, hc, hx⟩ := hx
      have hlt := h.lt_of_mem_childrenOf hc
      rcases h.mem_subtree_iff.1 hx with rfl | ⟨-, hcx⟩
      · omega
      · have := lt_of_mem_ancestors hcx
        omega
    · exact hx
  · intro hx
    have hlt := lt_of_mem_ancestors hx.2
    exact (hsubtree.2 (.inr hx)).resolve_left (by omega)

/-! ## Order -/

theorem sorted_flatMap_subtree (h : t.WellFormed) (hs : Spans t.members l i k) :
    (l.flatMap t.subtree).Pairwise (· < ·) ∧ ∀ x ∈ l.flatMap t.subtree, i ≤ x ∧ x < k := by
  induction hs with
  | nil => simp
  | @cons i j k rest hbelow hrest ihbelow ihrest =>
    have hij := hbelow.le
    have hjk := hrest.le
    -- the children are the last of the members
    have hsub : (t.below i).Sublist ((t.members i).flatMap t.subtree) := by
      rw [h.below_eq, members, List.flatMap_append]
      exact List.sublist_append_right _ _
    have hinner := ihbelow.1.sublist hsub
    have hbounds : ∀ x ∈ t.below i, i + 1 ≤ x ∧ x < j := fun x hx => ihbelow.2 x (hsub.subset hx)
    rw [List.flatMap_cons, subtree_eq]
    constructor
    · refine List.pairwise_append.2 ⟨List.pairwise_cons.2 ⟨?_, hinner⟩, ihrest.1, ?_⟩
      · intro x hx
        exact (hbounds x hx).1
      · intro x hx y hy
        have hyj := (ihrest.2 y hy).1
        rcases List.mem_cons.1 hx with rfl | hx
        · omega
        · have := hbounds x hx
          omega
    · intro x hx
      rcases List.mem_append.1 hx with hx | hx
      · rcases List.mem_cons.1 hx with rfl | hx
        · omega
        · have := hbounds x hx
          omega
      · have := ihrest.2 x hx
        omega

theorem sorted_subtree (h : t.WellFormed) (hi : i < t.size) : (t.subtree i).Pairwise (· < ·) := by
  obtain ⟨j, -, hwalk⟩ := h.order.sub (Nat.zero_le i) hi
  simpa using (h.sorted_flatMap_subtree hwalk).1

end WellFormed

end Tree

end Grove

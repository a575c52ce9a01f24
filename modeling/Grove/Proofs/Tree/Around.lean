/-
Around a node. The nodes after it are those with larger numbers that are not below it, and the
nodes before it those with smaller numbers that are not above it (`WellFormed.mem_after_iff`,
`WellFormed.mem_before_iff`). Seen from the node they lie below the later siblings, and below
the earlier ones, of the node and of the nodes above it (`WellFormed.mem_after_iff_younger`,
`WellFormed.mem_before_iff_younger`).
-/
import Grove.Proofs.Tree.Descent

namespace Grove

namespace Tree

variable {t : Tree} {a c i j k p s x y : Nat} {l : List Nat}

/-- The last node below a node, or the node if nothing is below it. -/
def lastBelow (t : Tree) (i : Nat) : Nat := (t.below i).getLast?.getD i

/-- The nodes after all that is below a node. -/
def after (t : Tree) (i : Nat) : List Nat := (t.below 0).filter (t.lastBelow i < ·)

/-- The nodes before a node that are not above it, the nearest first. -/
def before (t : Tree) (i : Nat) : List Nat :=
  ((t.below 0).filter fun x => x < i && !(t.ancestors i).contains x).reverse

/-- Whether a node is a later child of the same parent. -/
def Younger (t : Tree) (a s : Nat) : Prop := ∃ p, a ∈ t.childrenOf p ∧ s ∈ t.childrenOf p ∧ a < s

theorem lastBelow_mem (t : Tree) (i : Nat) : t.lastBelow i ∈ t.subtree i := by
  rw [subtree_eq, lastBelow]
  cases hlast : (t.below i).getLast? with
  | none => simp
  | some last => simpa using .inr (List.mem_of_getLast? hlast)

namespace WellFormed

theorem le_lastBelow (h : t.WellFormed) (hi : i < t.size) (hx : x ∈ t.subtree i) :
    x ≤ t.lastBelow i := by
  have hsorted := h.sorted_subtree hi
  rw [subtree_eq] at hsorted hx
  rw [lastBelow]
  rcases List.eq_nil_or_concat' (t.below i) with hnone | ⟨init, last, hbelow⟩
  · rw [hnone] at hx ⊢
    exact (List.mem_singleton.1 hx).le
  · have hlast : ∀ y ∈ i :: init, y < last := by
      rw [hbelow, ← List.cons_append] at hsorted
      exact fun y hy => (List.pairwise_append.1 hsorted).2.2 y hy last (by simp)
    rw [hbelow, ← List.cons_append, List.mem_append, List.mem_singleton] at hx
    rw [hbelow, List.getLast?_concat, Option.getD_some]
    rcases hx with hx | rfl
    · exact (hlast x hx).le
    · exact Nat.le_refl _

/-- After a node are the nodes with larger numbers that are not below it. -/
theorem mem_after_iff (h : t.WellFormed) (hi : i < t.size) :
    x ∈ t.after i ↔ t.Within x ∧ i < x ∧ i ∉ t.ancestors x := by
  have hlast : t.lastBelow i = i ∨ i ∈ t.ancestors (t.lastBelow i) :=
    (h.mem_subtree_iff.1 (lastBelow_mem t i)).imp_right And.right
  obtain ⟨j, hj, -, hinterval⟩ := h.exists_interval hi
  have hlastj := (hinterval _).1 hlast
  rw [after, List.mem_filter, h.mem_below_iff, decide_eq_true_eq]
  constructor
  · rintro ⟨⟨hx, -⟩, hlt⟩
    refine ⟨hx, by omega, fun hix => ?_⟩
    have := h.le_lastBelow hi (h.mem_subtree_iff.2 (.inr ⟨hx, hix⟩))
    omega
  · rintro ⟨hx, hix, hnot⟩
    refine ⟨⟨hx, h.zero_mem_ancestors (by omega) hx.lt_size⟩, ?_⟩
    have hout : ¬(i ≤ x ∧ x < j) := by
      rw [← hinterval]
      rintro (rfl | hbelow)
      · omega
      · exact hnot hbelow
    omega

theorem mem_before_iff (h : t.WellFormed) (hi : i < t.size) :
    x ∈ t.before i ↔ t.Within x ∧ x < i ∧ x ∉ t.ancestors i := by
  rw [before, List.mem_reverse, List.mem_filter, h.mem_below_iff]
  simp only [Bool.and_eq_true, decide_eq_true_eq, Bool.not_eq_true', List.contains_eq_mem, decide_eq_false_iff_not]
  constructor
  · rintro ⟨⟨hx, -⟩, hlt, hnot⟩
    exact ⟨hx, hlt, hnot⟩
  · rintro ⟨hx, hlt, hnot⟩
    refine ⟨⟨hx, h.zero_mem_ancestors ?_ hx.lt_size⟩, hlt, hnot⟩
    rcases Nat.eq_zero_or_pos x with rfl | hpos
    · exact absurd (h.zero_mem_ancestors hlt hi) hnot
    · exact hpos

theorem sorted_below (h : t.WellFormed) (hi : i < t.size) : (t.below i).Pairwise (· < ·) := by
  have hsorted := h.sorted_subtree hi
  rw [subtree_eq] at hsorted
  exact (List.pairwise_cons.1 hsorted).2

theorem sorted_after (h : t.WellFormed) (i : Nat) : (t.after i).Pairwise (· < ·) :=
  (h.sorted_below h.within_zero.lt_size).filter _

theorem sorted_before (h : t.WellFormed) (i : Nat) : (t.before i).Pairwise (· > ·) :=
  List.pairwise_reverse.2 ((h.sorted_below h.within_zero.lt_size).filter _)

/-- A node is after another if that one is before it. -/
theorem mem_after_comm (h : t.WellFormed) (hx : t.Within x) (hy : t.Within y) :
    y ∈ t.after x ↔ x ∈ t.before y := by
  rw [h.mem_after_iff hx.lt_size, h.mem_before_iff hy.lt_size]
  simp [hx, hy]

/-! ## Siblings -/

theorem sorted_members (h : t.WellFormed) (p : Nat) : (t.members p).Pairwise (· < ·) := by
  by_cases hp : p < t.size
  · obtain ⟨j, -, hwalk⟩ := h.order.sub (Nat.zero_le p) hp
    exact (Spans.singleton_iff.1 hwalk).2.sorted
  · rw [members_of_size_le (Nat.le_of_not_lt hp)]
    exact .nil

theorem sorted_listed (h : t.WellFormed) (p : Nat) (place : Place) :
    (t.listed p place).Pairwise (· < ·) := by
  have hparts := List.pairwise_append.1 (h.sorted_members p)
  have hfront := List.pairwise_append.1 hparts.1
  cases place with
  | attributes => exact hfront.1
  | bindings => exact hfront.2.1
  | children => exact hparts.2.1

theorem sorted_childrenOf (h : t.WellFormed) (p : Nat) : (t.childrenOf p).Pairwise (· < ·) :=
  h.sorted_listed p .children

end WellFormed

theorem itemsAfter_append {l₁ l₂ : List Nat} (h : a ∉ l₁) : itemsAfter a (l₁ ++ a :: l₂) = l₂ := by
  rw [itemsAfter, List.dropWhile_append_of_pos fun x hx => by simpa using ne_of_mem_of_not_mem hx h]
  simp

theorem itemsBefore_append {l₁ l₂ : List Nat} (h : a ∉ l₁) :
    itemsBefore a (l₁ ++ a :: l₂) = l₁.reverse := by
  rw [itemsBefore, List.takeWhile_append_of_pos fun x hx => by simpa using ne_of_mem_of_not_mem hx h]
  simp

/-- In a list in order, the items after one are the larger ones, and those before it the
smaller ones. -/
theorem mem_items_iff (hl : l.Pairwise (· < ·)) (ha : a ∈ l) :
    (s ∈ itemsAfter a l ↔ s ∈ l ∧ a < s) ∧ (s ∈ itemsBefore a l ↔ s ∈ l ∧ s < a) := by
  obtain ⟨l₁, l₂, rfl⟩ := List.append_of_mem ha
  obtain ⟨-, hlater, hearlier⟩ := List.pairwise_append.1 hl
  have hbefore : ∀ x ∈ l₁, x < a := fun x hx => hearlier x hx a (by simp)
  have hafter : ∀ x ∈ l₂, a < x := (List.pairwise_cons.1 hlater).1
  have hnot : a ∉ l₁ := fun h => Nat.lt_irrefl a (hbefore a h)
  rw [itemsAfter_append hnot, itemsBefore_append hnot, List.mem_reverse, List.mem_append, List.mem_cons]
  constructor
  · refine ⟨fun hs => ⟨.inr (.inr hs), hafter s hs⟩, ?_⟩
    rintro ⟨hs | rfl | hs, hlt⟩
    · have := hbefore s hs
      omega
    · omega
    · exact hs
  · refine ⟨fun hs => ⟨.inl hs, hbefore s hs⟩, ?_⟩
    rintro ⟨hs | rfl | hs, hlt⟩
    · exact hs
    · omega
    · have := hafter s hs
      omega

theorem Within.siblingList_eq (ha : t.Within a) :
    t.siblingList a = ((t.parentOf a).map t.childrenOf).getD [] := by
  obtain ⟨kind, hkind, hplace⟩ := Option.map_eq_some_iff.1 ha
  obtain ⟨n, hn, rfl⟩ := Option.map_eq_some_iff.1 hkind
  rw [siblingList, parentOf, hn]
  cases hk : n.kind <;> simp [hk, NodeKind.place] at hplace ⊢

namespace WellFormed

theorem mem_later_siblings_iff (h : t.WellFormed) (ha : t.Within a) :
    s ∈ itemsAfter a (t.siblingList a) ↔ t.Younger a s := by
  rw [ha.siblingList_eq]
  constructor
  · intro hs
    cases hp : t.parentOf a with
    | none => simp [hp, itemsAfter] at hs
    | some p =>
      rw [hp] at hs
      have hchild := h.mem_childrenOf_iff_within.2 ⟨hp, ha⟩
      obtain ⟨hs, hlt⟩ := (mem_items_iff (h.sorted_childrenOf p) hchild).1.1 hs
      exact ⟨p, hchild, hs, hlt⟩
  · rintro ⟨p, hchild, hs, hlt⟩
    rw [(h.mem_childrenOf_iff_within.1 hchild).1]
    exact (mem_items_iff (h.sorted_childrenOf p) hchild).1.2 ⟨hs, hlt⟩

theorem mem_earlier_siblings_iff (h : t.WellFormed) (hs : t.Within s) :
    a ∈ (if (t.siblingList s).contains s then itemsBefore s (t.siblingList s) else []) ↔
      t.Younger a s := by
  rw [hs.siblingList_eq]
  constructor
  · intro ha
    cases hp : t.parentOf s with
    | none => simp [hp] at ha
    | some p =>
      rw [hp] at ha
      have hchild := h.mem_childrenOf_iff_within.2 ⟨hp, hs⟩
      rw [if_pos (by simpa using hchild)] at ha
      obtain ⟨ha, hlt⟩ := (mem_items_iff (h.sorted_childrenOf p) hchild).2.1 ha
      exact ⟨p, ha, hchild, hlt⟩
  · rintro ⟨p, ha, hchild, hlt⟩
    rw [(h.mem_childrenOf_iff_within.1 hchild).1, if_pos (by simpa using hchild)]
    exact (mem_items_iff (h.sorted_childrenOf p) hchild).2.2 ⟨ha, hlt⟩

/-! ## Decomposition -/

/-- What is below a node comes before its later siblings. -/
theorem lt_of_younger (h : t.WellFormed) (has : t.Younger a s) (hi : i = a ∨ a ∈ t.ancestors i) :
    i < s := by
  obtain ⟨p, ha, hs, hlt⟩ := has
  obtain ⟨j, -, -, hinterval⟩ := h.exists_interval (h.lt_size_of_mem_children ha)
  have hij := (hinterval i).1 hi
  have hsj : ¬(a ≤ s ∧ s < j) := by
    rw [← hinterval, h.mem_ancestors_iff (h.mem_childrenOf_iff.1 hs).1]
    -- the nodes above a sibling are the parent and those above it, which are smaller
    have hpa := h.lt_of_mem_childrenOf ha
    rintro (rfl | rfl | hap)
    · omega
    · omega
    · have := lt_of_mem_ancestors hap
      omega
  omega

/-- What is below a later sibling is after all that is below a node. -/
theorem after_of_younger (h : t.WellFormed) (has : t.Younger a s) (hi : i = a ∨ a ∈ t.ancestors i)
    (hx : x ∈ t.subtree s) : t.Within x ∧ i < x ∧ i ∉ t.ancestors x := by
  have his := h.lt_of_younger has hi
  obtain ⟨p, ha, hs, hlt⟩ := has
  have hsx : x = s ∨ s ∈ t.ancestors x := (h.mem_subtree_iff.1 hx).imp_right And.right
  have hle : s ≤ x := by
    rcases hsx with rfl | hsx
    · exact Nat.le_refl _
    · exact (lt_of_mem_ancestors hsx).le
  refine ⟨?_, by omega, fun hix => ?_⟩
  · rcases h.mem_subtree_iff.1 hx with rfl | ⟨hx, -⟩
    · exact (h.mem_childrenOf_iff_within.1 hs).2
    · exact hx
  · -- else the later sibling would be below the earlier one
    have hax : x = a ∨ a ∈ t.ancestors x := by
      rcases hi with rfl | hai
      · exact .inr hix
      · exact .inr (mem_ancestors_trans hai hix)
    have := h.lt_of_younger ⟨p, ha, hs, hlt⟩ hax
    omega

/-- After a node is what is below the later siblings of it and of the nodes above it. -/
theorem mem_after_iff_younger (h : t.WellFormed) (hi : t.Within i) :
    x ∈ t.after i ↔ ∃ a ∈ i :: t.ancestors i, ∃ s, t.Younger a s ∧ x ∈ t.subtree s := by
  rw [h.mem_after_iff hi.lt_size]
  constructor
  · rintro ⟨hx, hix, hnot⟩
    induction i using Nat.strongRecOn with
    | ind i ih =>
      have hpos : 0 < i := by
        rcases Nat.eq_zero_or_pos i with rfl | hpos
        · exact absurd (h.zero_mem_ancestors hix hx.lt_size) hnot
        · exact hpos
      obtain ⟨p, hp⟩ := h.exists_parentOf hpos hi.lt_size
      have hpi := h.parentOf_lt hp
      rw [h.ancestors_of_parentOf hp]
      by_cases hpx : p ∈ t.ancestors x
      · -- the parent is above both, so the other is below a sibling
        obtain ⟨s, hs, hxs⟩ := h.exists_child hx hpx
        have hchild := h.mem_childrenOf_iff_within.2 ⟨hp, hi⟩
        have hxmem : x ∈ t.subtree s := h.mem_subtree_iff.2 (hxs.imp_right fun hsx => ⟨hx, hsx⟩)
        refine ⟨i, by simp, s, ⟨p, hchild, hs, ?_⟩, hxmem⟩
        by_contra hle
        rcases Nat.lt_or_eq_of_le (Nat.le_of_not_lt hle) with hlt | rfl
        · have := h.lt_of_younger ⟨p, hs, hchild, hlt⟩ hxs
          omega
        · rcases hxs with rfl | hsx
          · omega
          · exact hnot hsx
      · obtain ⟨a, ha, hrest⟩ := ih p hpi (h.within_of_parentOf hp) (by omega) hpx
        exact ⟨a, List.mem_cons_of_mem _ ha, hrest⟩
  · rintro ⟨a, ha, s, has, hx⟩
    exact h.after_of_younger has ((List.mem_cons.1 ha).imp_left Eq.symm) hx

/-- Before a node is what is below the earlier siblings of it and of the nodes above it. -/
theorem mem_before_iff_younger (h : t.WellFormed) (hi : t.Within i) :
    x ∈ t.before i ↔ ∃ s ∈ i :: t.ancestors i, ∃ a, t.Younger a s ∧ x ∈ t.subtree a := by
  have hmem : ∀ {y z}, t.Within y → (y ∈ t.subtree z ↔ z ∈ y :: t.ancestors y) := by
    intro y z hy
    rw [h.mem_subtree_iff, List.mem_cons]
    simp [hy, eq_comm]
  constructor
  · intro hx
    have hwithin := ((h.mem_before_iff hi.lt_size).1 hx).1
    obtain ⟨a, ha, s, has, his⟩ :=
      (h.mem_after_iff_younger hwithin).1 ((h.mem_after_comm hwithin hi).2 hx)
    exact ⟨s, (hmem hi).1 his, a, has, (hmem hwithin).2 ha⟩
  · rintro ⟨s, hs, a, has, hx⟩
    have hwithin : t.Within x := by
      rcases h.mem_subtree_iff.1 hx with rfl | ⟨hx, -⟩
      · obtain ⟨p, ha, -⟩ := has
        exact (h.mem_childrenOf_iff_within.1 ha).2
      · exact hx
    rw [← h.mem_after_comm hwithin hi, h.mem_after_iff_younger hwithin]
    exact ⟨a, (hmem hwithin).1 hx, s, has, (hmem hi).2 hs⟩

end WellFormed

end Tree

end Grove

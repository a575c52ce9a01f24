/-
Document order. In a well-formed tree the nodes from a node up to the end of its walk
are the node and all that is below it, attributes and namespaces included, so what is
below a node is numbered without a gap (`WellFormed.exists_interval`).
-/
import Grove.Proofs.Tree.WellFormed

namespace Grove

namespace Tree

variable {t : Tree} {i j k p x y : Nat} {l : List Nat}

/-! ## The nodes above a node -/

theorem lt_of_mem_ancestors (hx : x ∈ t.ancestors k) : x < k := by
  induction k using Nat.strongRecOn with
  | ind k ih =>
    rw [ancestors] at hx
    split at hx
    · simp at hx
    next p _ =>
      split at hx
      next hpk =>
        rcases List.mem_cons.1 hx with rfl | hx
        · exact hpk
        · have := ih p hpk hx
          omega
      next => simp at hx

theorem mem_ancestors_trans (hx : x ∈ t.ancestors y) (hy : y ∈ t.ancestors k) :
    x ∈ t.ancestors k := by
  induction k using Nat.strongRecOn with
  | ind k ih =>
    rw [ancestors] at hy ⊢
    split at hy
    · simp at hy
    next p _ =>
      split at hy
      next hpk =>
        rw [if_pos hpk]
        rcases List.mem_cons.1 hy with rfl | hy
        · exact List.mem_cons_of_mem _ hx
        · exact List.mem_cons_of_mem _ (ih p hpk hy)
      next => simp at hy

theorem sorted_ancestors (t : Tree) (i : Nat) : (t.ancestors i).Pairwise (· > ·) := by
  induction i using Nat.strongRecOn with
  | ind i ih =>
    rw [ancestors]
    cases t.parentOf i with
    | none => exact .nil
    | some p =>
      dsimp only
      split
      next hp => exact List.pairwise_cons.2 ⟨fun x hx => lt_of_mem_ancestors hx, ih p hp⟩
      next => exact .nil

namespace WellFormed

theorem parentOf_lt (h : t.WellFormed) (hp : t.parentOf i = some p) : p < i := by
  have hi : i < t.size := by
    by_contra hge
    simp [parentOf, node?_eq_none (Nat.le_of_not_lt hge)] at hp
  rcases Nat.eq_zero_or_pos i with rfl | h0
  · obtain ⟨_, _, _, hnone⟩ := h.root
    simp [hnone] at hp
  · obtain ⟨_, q, _, _, hq, hqi⟩ := h.inner i h0 hi
    obtain rfl : q = p := by simpa [hq] using hp
    exact hqi

theorem mem_listed_iff (h : t.WellFormed) {place : Place} : i ∈ t.listed p place ↔
    t.parentOf i = some p ∧ (t.kindOf? i).map (·.place) = some place := by
  rw [← List.count_pos_iff, h.once]
  split <;> simp_all

/-- What stands directly below a node has it as its parent. -/
theorem mem_members_iff (h : t.WellFormed) : i ∈ t.members p ↔ t.parentOf i = some p := by
  simp only [members, List.mem_append, h.mem_listed_iff]
  constructor
  · rintro ((⟨hp, -⟩ | ⟨hp, -⟩) | ⟨hp, -⟩) <;> exact hp
  · intro hp
    obtain ⟨n, hn, -⟩ := Option.bind_eq_some_iff.1 hp
    cases hplace : n.kind.place <;> simp [hp, kindOf?, hn, hplace]

theorem mem_ancestors_iff (h : t.WellFormed) (hp : t.parentOf k = some p) :
    x ∈ t.ancestors k ↔ x = p ∨ x ∈ t.ancestors p := by
  rw [ancestors, hp]
  simp [h.parentOf_lt hp]

/-! ## Intervals -/

/-- A walk meets only nodes that are below those it starts from. -/
theorem exists_above (h : t.WellFormed) (hs : Spans t.members l i j) (hik : i ≤ k) (hkj : k < j) :
    ∃ y ∈ l, k = y ∨ y ∈ t.ancestors k := by
  induction hs with
  | nil => omega
  | @cons i j₁ j rest hbelow hrest ihbelow ihrest =>
    by_cases hki : k = i
    · exact ⟨i, by simp, .inl hki⟩
    · by_cases hkj₁ : k < j₁
      · obtain ⟨y, hy, hky⟩ := ihbelow (by omega) hkj₁
        have hiy : i ∈ t.ancestors y :=
          (h.mem_ancestors_iff (h.mem_members_iff.1 hy)).2 (.inl rfl)
        refine ⟨i, by simp, .inr ?_⟩
        rcases hky with rfl | hky
        · exact hiy
        · exact mem_ancestors_trans hiy hky
      · obtain ⟨y, hy, hky⟩ := ihrest (by omega) hkj
        exact ⟨y, List.mem_cons_of_mem _ hy, hky⟩

/-- A walk meets all nodes below those it meets. -/
theorem below_lt (h : t.WellFormed) (hs : Spans t.members l i j) (hik : i ≤ k) (hkj : k < j)
    (hx : k ∈ t.ancestors x) : x < j := by
  induction x using Nat.strongRecOn with
  | ind x ih =>
    cases hp : t.parentOf x with
    | none =>
      rw [ancestors, hp] at hx
      simp at hx
    | some p =>
      have hkp : k ≤ p ∧ p < j := by
        rcases (h.mem_ancestors_iff hp).1 hx with rfl | hx
        · exact ⟨Nat.le_refl _, hkj⟩
        · exact ⟨(lt_of_mem_ancestors hx).le, ih p (h.parentOf_lt hp) hx⟩
      obtain ⟨j', hj', hwalk⟩ := hs.sub (Nat.le_trans hik hkp.1) hkp.2
      have := (Spans.singleton_iff.1 hwalk).2.bounds (h.mem_members_iff.2 hp)
      omega

/-- A node and all that is below it are an interval of numbers, in the order of a
walk. -/
theorem exists_interval (h : t.WellFormed) (hi : i < t.size) :
    ∃ j ≤ t.size, Spans t.members [i] i j ∧
      ∀ k, k = i ∨ i ∈ t.ancestors k ↔ i ≤ k ∧ k < j := by
  obtain ⟨j, hj, hwalk⟩ := h.order.sub (Nat.zero_le i) hi
  have hij := hwalk.lt
  refine ⟨j, hj, hwalk, fun k => ⟨?_, ?_⟩⟩
  · rintro (rfl | hk)
    · exact ⟨Nat.le_refl _, hij⟩
    · exact ⟨(lt_of_mem_ancestors hk).le, h.below_lt hwalk (Nat.le_refl _) hij hk⟩
  · rintro ⟨hik, hkj⟩
    obtain ⟨y, hy, hky⟩ := h.exists_above hwalk hik hkj
    obtain rfl : y = i := by simpa using hy
    exact hky

end WellFormed

end Tree

end Grove

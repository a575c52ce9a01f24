/-
Numberings by a walk. Nodes are numbers and `members` gives the nodes that stand
directly below a node; a walk meets a node, then what is below it, member by
member. `Spans members l i k` says that the numbers from `i` up to `k` are the
nodes a walk from the nodes of `l` meets, in the order in which it meets them.

A tree grows at its edge: a node on the path from the last node to the root can
take one more member, and that member gets the next number (`Trail.spans_grown`).
-/

namespace Grove

/-- The numbers from `i` up to `k` are the nodes of `l` and all that is below
them, in the order of a walk. -/
inductive Spans (members : Nat → List Nat) : List Nat → Nat → Nat → Prop
  | nil (i : Nat) : Spans members [] i i
  | cons {i j k : Nat} {rest : List Nat} : Spans members (members i) (i + 1) j →
      Spans members rest j k → Spans members (i :: rest) i k

namespace Spans

variable {m m' : Nat → List Nat} {l l' : List Nat} {i j k x : Nat}

theorem le (h : Spans m l i k) : i ≤ k := by
  induction h with
  | nil => exact Nat.le_refl _
  | cons _ _ ih₁ ih₂ => omega

theorem singleton_iff : Spans m [x] i k ↔ x = i ∧ Spans m (m x) (x + 1) k := by
  constructor
  · intro h
    cases h with
    | cons h₁ h₂ => cases h₂; exact ⟨rfl, h₁⟩
  · rintro ⟨rfl, h⟩
    exact .cons h (.nil _)

theorem lt (h : Spans m [x] i k) : x < k := (singleton_iff.1 h).2.le

theorem append (h : Spans m l i j) (h' : Spans m l' j k) : Spans m (l ++ l') i k := by
  induction h with
  | nil => exact h'
  | cons h₁ _ _ ih => exact .cons h₁ (ih h')

theorem split (h : Spans m (l ++ l') i k) : ∃ j, Spans m l i j ∧ Spans m l' j k := by
  induction l generalizing i with
  | nil => exact ⟨i, .nil i, h⟩
  | cons x l ih =>
    cases h with
    | cons h₁ h₂ =>
      obtain ⟨j, hl, hl'⟩ := ih h₂
      exact ⟨j, .cons h₁ hl, hl'⟩

/-- A walk looks only at the nodes it meets. -/
theorem congr (h : Spans m l i k) (heq : ∀ x, i ≤ x → x < k → m' x = m x) : Spans m' l i k := by
  induction h with
  | nil => exact .nil _
  | @cons i j k rest h₁ h₂ ih₁ ih₂ =>
    have hj := h₁.le
    have hk := h₂.le
    refine .cons ?_ (ih₂ fun x hx hxk => heq x (by omega) hxk)
    rw [heq i (Nat.le_refl i) (by omega)]
    exact ih₁ fun x hx hxj => heq x (by omega) (by omega)

theorem bounds (h : Spans m l i k) (hx : x ∈ l) : i ≤ x ∧ x < k := by
  induction h with
  | nil => simp at hx
  | cons h₁ h₂ _ ih₂ =>
    have hj := h₁.le
    have hk := h₂.le
    rcases List.mem_cons.1 hx with rfl | hx
    · omega
    · have := ih₂ hx
      omega

/-- A walk goes from smaller numbers to larger ones. -/
theorem sorted (h : Spans m l i k) : l.Pairwise (· < ·) := by
  induction h with
  | nil => exact .nil
  | cons h₁ h₂ _ ih₂ =>
    refine List.pairwise_cons.2 ⟨fun x hx => ?_, ih₂⟩
    have hle := h₁.le
    have hx := (h₂.bounds hx).1
    omega

/-- Every node that a walk meets has a walk of its own, which ends before the
whole does. -/
theorem sub (h : Spans m l i k) (hi : i ≤ x) (hk : x < k) : ∃ j, j ≤ k ∧ Spans m [x] x j := by
  induction h with
  | nil => omega
  | @cons i j k rest h₁ h₂ ih₁ ih₂ =>
    have hjk := h₂.le
    by_cases hxi : x = i
    · exact ⟨j, hjk, singleton_iff.2 ⟨rfl, hxi ▸ h₁⟩⟩
    · by_cases hxj : x < j
      · obtain ⟨j', hj', h'⟩ := ih₁ (by omega) hxj
        exact ⟨j', by omega, h'⟩
      · exact ih₂ (by omega) hk

end Spans

/-- A path from a node to the root 0 on which every node is the last member of the
next. -/
def Trail (members : Nat → List Nat) : List Nat → Prop
  | [] => False
  | [i] => i = 0
  | c :: p :: rest => (members p).getLast? = some c ∧ Trail members (p :: rest)

namespace Trail

variable {m m' : Nat → List Nat} {p c s : Nat} {rest : List Nat}

theorem tail (h : Trail m (c :: p :: rest)) : Trail m (p :: rest) := h.2

/-- What is below a node on the path goes up to the end. -/
theorem spans (hs : Spans m [0] 0 s) :
    ∀ {c : Nat} {rest : List Nat}, Trail m (c :: rest) → Spans m [c] c s
  | c, [], h => by
    simp only [Trail] at h
    exact h ▸ hs
  | c, p :: rest, h => by
    obtain ⟨hlast, htail⟩ := h
    have hp := (Spans.singleton_iff.1 (spans hs htail)).2
    obtain ⟨init, hinit⟩ := List.getLast?_eq_some_iff.1 hlast
    rw [hinit] at hp
    obtain ⟨j, -, hc⟩ := hp.split
    obtain ⟨rfl, -⟩ := Spans.singleton_iff.1 hc
    exact hc

/-- The numbers on the path fall towards the root. -/
theorem lt (hs : Spans m [0] 0 s) (h : Trail m (c :: p :: rest)) : p < c := by
  have hp := (Spans.singleton_iff.1 (spans hs h.2)).2
  have := hp.bounds (List.mem_of_getLast? h.1)
  omega

theorem lt_of_mem (hs : Spans m [0] 0 s) :
    ∀ {c : Nat} {rest : List Nat}, Trail m (c :: rest) → ∀ x ∈ rest, x < c
  | c, [], _, x, hx => by simp at hx
  | c, p :: rest, h, x, hx => by
    have hpc := lt hs h
    rcases List.mem_cons.1 hx with rfl | hx
    · exact hpc
    · have := lt_of_mem hs h.2 x hx
      omega

/-- Once the walk from one node on the path goes on to a new end, so does the walk
from the root. -/
theorem spans_outward {e : Nat} (hs : Spans m [0] 0 s) (hsp : p < s)
    (hm : ∀ x, x ≠ p → x < s → m' x = m x) :
    ∀ {c : Nat} {rest : List Nat}, Trail m (c :: rest) → c ≤ p → Spans m' [c] c e →
      Spans m' [0] 0 e
  | c, [], h, _, hc => by
    simp only [Trail] at h
    exact h ▸ hc
  | c, q :: rest, h, hcp, hc => by
    have hqc := lt hs h
    have hq := (Spans.singleton_iff.1 (spans hs h.2)).2
    obtain ⟨init, hinit⟩ := List.getLast?_eq_some_iff.1 h.1
    refine spans_outward hs hsp hm h.2 (by omega) (Spans.singleton_iff.2 ⟨rfl, ?_⟩)
    rw [hm q (by omega) (by omega), hinit]
    rw [hinit] at hq
    obtain ⟨j, hbefore, hlast⟩ := hq.split
    obtain ⟨rfl, -⟩ := Spans.singleton_iff.1 hlast
    exact (hbefore.congr fun x _ hxc => hm x (by omega) (by omega)).append hc

variable (hs : Spans m [0] 0 s) (hm : ∀ x, x ≠ p → x < s → m' x = m x)
include hs hm

/-- A new last member of a node on the path gets the next number. -/
theorem spans_grown (h : Trail m (p :: rest)) (hp : m' p = m p ++ [s]) (hnew : m' s = []) :
    Spans m' [0] 0 (s + 1) := by
  have hend := spans hs h
  refine spans_outward hs hend.lt hm h (Nat.le_refl p) (Spans.singleton_iff.2 ⟨rfl, ?_⟩)
  rw [hp]
  refine ((Spans.singleton_iff.1 hend).2.congr fun x hx hxs => hm x (by omega) hxs).append ?_
  exact Spans.singleton_iff.2 ⟨rfl, hnew ▸ .nil _⟩

theorem grown (h : Trail m (p :: rest)) : Trail m' (p :: rest) := by
  have hps : p < s := (spans hs h).lt
  have hlt := lt_of_mem hs h
  -- all nodes of the path but the first keep their members
  suffices ∀ {c rest}, Trail m (c :: rest) → (∀ x ∈ rest, x < p) → Trail m' (c :: rest) from
    this h hlt
  intro c rest
  induction rest generalizing c with
  | nil => exact fun h _ => h
  | cons q rest ih =>
    intro h hlt
    have hq := hlt q (by simp)
    exact ⟨by rw [hm q (by omega) (by omega)]; exact h.1,
      ih h.2 fun x hx => hlt x (by simp [hx])⟩

theorem extended (h : Trail m (p :: rest)) (hp : m' p = m p ++ [s]) : Trail m' (s :: p :: rest) :=
  ⟨by rw [hp]; simp, grown hs hm h⟩

end Trail

end Grove

/-
Navigation. What is below a node, what is above it, its siblings and its children describe one
tree: what is below a node has it above, one node is the next sibling of another if that one is
the previous sibling of it, and the way from sibling to sibling goes along the list of the
children (`Model.Reachable.navigation_agrees`).

A sibling is found by a search for the node in the list of the children of its parent. As each
child stands there once, the search takes the list apart in one way, and the next and the
previous sibling are the neighbours of the node (`Tree.itemAfter_append`, `Tree.itemBefore_append`).
-/
import Mathlib.Data.List.TakeWhile
import Grove.Proofs.Tree.Axes

namespace Grove

/-- What comes of going from one thing to the next until there is none. -/
inductive Follows {α ε : Type} (next : α → Except ε (Option α)) : α → List α → Prop
  | last {a : α} : next a = .ok none → Follows next a [a]
  | on {a b : α} {l : List α} : next a = .ok (some b) → Follows next b l → Follows next a (a :: l)

/-- Where the next thing is always the next one in a list, the list is followed to its end. -/
theorem Follows.of_list {α β ε : Type} {next : α → Except ε (Option α)} {g : β → α} {whole : List β}
    (hnext : ∀ before b after, whole = before ++ b :: after → next (g b) = .ok (after.head?.map g))
    {before after : List β} {b : β} (hwhole : whole = before ++ b :: after) :
    Follows next (g b) ((b :: after).map g) := by
  induction after generalizing before b with
  | nil => exact .last (hnext before b [] hwhole)
  | cons c after ih =>
    have hrest : whole = (before ++ [b]) ++ c :: after := by simp [hwhole]
    exact .on (hnext before b (c :: after) hwhole) (ih hrest)

namespace Tree

variable {t : Tree} {i j x y : Nat} {l l₁ l₂ : List Nat}

/-! ## Neighbours in a list -/

theorem not_mem_before (h : (l₁ ++ x :: l₂).Nodup) : x ∉ l₁ := fun hx =>
  (List.nodup_append.1 h).2.2 x hx x List.mem_cons_self rfl

theorem itemAfter_append (h : x ∉ l₁) : itemAfter x (l₁ ++ x :: l₂) = l₂.head? := by
  induction l₁ with
  | nil => simp [itemAfter]
  | cons a l₁ ih =>
    obtain ⟨hne, hrest⟩ := not_or.1 (mt List.mem_cons.2 h)
    rw [List.cons_append, itemAfter, if_neg (Ne.symm hne), ih hrest]

theorem itemBefore_append (h : x ∉ l₁) : itemBefore x (l₁ ++ x :: l₂) = l₁.getLast? := by
  induction l₁ with
  | nil => cases l₂ <;> simp [itemBefore]
  | cons a l₁ ih =>
    obtain ⟨hne, hrest⟩ := not_or.1 (mt List.mem_cons.2 h)
    cases l₁ with
    | nil => simp [itemBefore, Ne.symm hne]
    | cons b l₁ =>
      obtain ⟨hb, -⟩ := not_or.1 (mt List.mem_cons.2 hrest)
      rw [List.cons_append, List.cons_append, itemBefore, if_neg (Ne.symm hne), if_neg (Ne.symm hb),
        ← List.cons_append, ih hrest, List.getLast?_cons_cons]

theorem itemsAfter_of_not_mem (h : x ∉ l) : itemsAfter x l = [] := by
  have hall : ∀ a ∈ l, decide (a ≠ x) = true := fun a ha => decide_eq_true (ne_of_mem_of_not_mem ha h)
  rw [itemsAfter, List.dropWhile_eq_nil_iff.2 hall, List.drop_nil]

theorem mem_of_itemAfter (h : itemAfter x l = some y) : x ∈ l := by
  induction l with
  | nil => simp [itemAfter] at h
  | cons a l ih =>
    rw [itemAfter] at h
    split at h
    next hax => exact List.mem_cons.2 (.inl hax.symm)
    next => exact List.mem_cons_of_mem _ (ih h)

theorem mem_of_itemBefore (h : itemBefore y l = some x) : y ∈ l := by
  induction l with
  | nil => simp [itemBefore] at h
  | cons a l ih =>
    cases l with
    | nil => simp [itemBefore] at h
    | cons b l =>
      rw [itemBefore] at h
      split at h
      next => cases h
      next =>
        split at h
        next hby => simp [hby]
        next => exact List.mem_cons_of_mem _ (ih h)

/-- Where each item stands once, one item is after another if that one is before it. -/
theorem itemAfter_eq_some_iff (hl : l.Nodup) : itemAfter x l = some y ↔ itemBefore y l = some x := by
  constructor
  · intro h
    obtain ⟨l₁, l₂, rfl⟩ := List.append_of_mem (mem_of_itemAfter h)
    rw [itemAfter_append (not_mem_before hl)] at h
    obtain ⟨l₃, rfl⟩ := List.head?_eq_some_iff.1 h
    rw [List.append_cons] at hl ⊢
    rw [itemBefore_append (not_mem_before hl), List.getLast?_concat]
  · intro h
    obtain ⟨l₁, l₂, rfl⟩ := List.append_of_mem (mem_of_itemBefore h)
    rw [itemBefore_append (not_mem_before hl)] at h
    obtain ⟨l₃, rfl⟩ := List.getLast?_eq_some_iff.1 h
    rw [List.append_assoc] at hl ⊢
    exact itemAfter_append (not_mem_before hl)

namespace WellFormed

/-! ## Siblings -/

theorem nodup_siblingList (h : t.WellFormed) (i : Nat) : (t.siblingList i).Nodup :=
  (h.sorted_siblingList i).imp Nat.ne_of_lt

/-- Only children of a node have siblings, and they have the same. -/
theorem siblingList_of_mem_childrenOf (h : t.WellFormed) {p : Nat} (hi : i ∈ t.childrenOf p) :
    t.siblingList i = t.childrenOf p := by
  obtain ⟨hp, hwithin⟩ := h.mem_childrenOf_iff_within.1 hi
  rw [hwithin.siblingList_eq, hp]
  rfl

theorem siblingList_of_mem (h : t.WellFormed) (hj : j ∈ t.siblingList i) :
    t.siblingList j = t.siblingList i := by
  obtain ⟨p, hp⟩ := exists_siblingList_eq hj
  rw [hp] at hj ⊢
  exact h.siblingList_of_mem_childrenOf hj

/-- The next and the previous sibling are the neighbours in the list of all. -/
theorem siblings_of_append (h : t.WellFormed) (hsplit : t.siblingList i = l₁ ++ j :: l₂) :
    t.nextSibling j = l₂.head? ∧ t.previousSibling j = l₁.getLast? := by
  have hmem : j ∈ t.siblingList i := by simp [hsplit]
  have hnot : j ∉ l₁ := not_mem_before (hsplit ▸ h.nodup_siblingList i)
  rw [nextSibling, previousSibling, h.siblingList_of_mem hmem, hsplit, itemAfter_append hnot,
    itemBefore_append hnot]
  exact ⟨rfl, rfl⟩

/-- One node is the next sibling of another if that one is the previous sibling of it. -/
theorem nextSibling_eq_some_iff (h : t.WellFormed) :
    t.nextSibling x = some y ↔ t.previousSibling y = some x := by
  rw [nextSibling, previousSibling]
  constructor
  · intro hnext
    have hprevious := (itemAfter_eq_some_iff (h.nodup_siblingList x)).1 hnext
    rwa [h.siblingList_of_mem (mem_of_itemBefore hprevious)]
  · intro hprevious
    have hnext := (itemAfter_eq_some_iff (h.nodup_siblingList y)).2 hprevious
    rwa [h.siblingList_of_mem (mem_of_itemAfter hnext)]

/-! ## Above a node -/

/-- The way up ends at the root. -/
theorem getLast?_ancestors (h : t.WellFormed) (hi : i < t.size) :
    (t.ancestors i).getLast? = if i = 0 then none else some 0 := by
  induction i using Nat.strongRecOn with
  | ind i ih =>
    rcases Nat.eq_zero_or_pos i with rfl | hpos
    · obtain ⟨_, _, _, hnone⟩ := h.root
      rw [ancestors, hnone]
      rfl
    · obtain ⟨p, hp⟩ := h.exists_parentOf hpos hi
      have hpi := h.parentOf_lt hp
      have hlast := ih p hpi (Nat.lt_trans hpi hi)
      rw [h.ancestors_of_parentOf hp, List.getLast?_cons, hlast, if_neg (Nat.ne_of_gt hpos)]
      split
      next hroot =>
        rw [hroot]
        rfl
      next => rfl

end WellFormed

end Tree

namespace Model

variable {m : Model} {x y : NodeHandle} {i : Nat}

/-- The axes of siblings are followed from one sibling to the next. -/
theorem Numbered.follows_siblings (hm : m.Numbered) (hi : i < m.size) :
    Follows m.nextSibling (m.handle i)
      (m.handle i :: m.handles (Axis.followingSibling.numbers m.tree i)) ∧
    Follows m.previousSibling (m.handle i)
      (m.handle i :: m.handles (Axis.precedingSibling.numbers m.tree i)) := by
  have hwf := hm.wellFormed
  have hlt : ∀ j ∈ m.tree.siblingList i, j < m.size := fun j => hwf.lt_size_of_mem_siblingList
  have hnext : ∀ j < m.size, m.nextSibling (m.handle j) = .ok ((m.tree.nextSibling j).map m.handle) :=
    fun j hj => hm.ask_handle hj _
  have hprevious : ∀ j < m.size,
      m.previousSibling (m.handle j) = .ok ((m.tree.previousSibling j).map m.handle) :=
    fun j hj => hm.ask_handle hj _
  by_cases hin : i ∈ m.tree.siblingList i
  · obtain ⟨before, after, hsplit⟩ := List.append_of_mem hin
    have hback : (m.tree.siblingList i).reverse = after.reverse ++ i :: before.reverse := by simp [hsplit]
    have hnot : i ∉ before := Tree.not_mem_before (hsplit ▸ hwf.nodup_siblingList i)
    rw [Axis.numbers, Axis.numbers, if_pos (by simpa using hin), hsplit, Tree.itemsAfter_append hnot,
      Tree.itemsBefore_append hnot]
    constructor
    · refine .of_list (fun l₁ j l₂ hj => ?_) hsplit
      rw [hnext j (hlt j (by simp [hj])), (hwf.siblings_of_append hj).1]
    · refine .of_list (fun l₁ j l₂ hj => ?_) hback
      have hj : m.tree.siblingList i = l₂.reverse ++ j :: l₁.reverse := by
        rw [← List.reverse_reverse (m.tree.siblingList i), hj]
        simp
      rw [hprevious j (hlt j (by simp [hj])), (hwf.siblings_of_append hj).2, List.getLast?_reverse]
  · have hnone : m.tree.nextSibling i = none ∧ m.tree.previousSibling i = none :=
      ⟨Option.eq_none_iff_forall_ne_some.2 fun _ hj => hin (Tree.mem_of_itemAfter hj),
        Option.eq_none_iff_forall_ne_some.2 fun _ hj => hin (Tree.mem_of_itemBefore hj)⟩
    rw [Axis.numbers, Axis.numbers, if_neg (by simpa using hin),
      Tree.itemsAfter_of_not_mem hin]
    refine ⟨.last ?_, .last ?_⟩
    · rw [hnext i hi, hnone.1]
      rfl
    · rw [hprevious i hi, hnone.2]
      rfl

/-- What is below a node are the nodes that have it above them. -/
theorem Numbered.mem_handles_below_iff (hm : m.Numbered) (hi : i < m.size) :
    x ∈ m.handles (m.tree.below i) ↔
      m.IsTreeNode x ∧ ∃ above, m.ancestors x false = .ok above ∧ m.handle i ∈ above := by
  rw [handles, List.mem_map, isTreeNode_iff hm]
  constructor
  · rintro ⟨j, hj, rfl⟩
    obtain ⟨hwithin, hij⟩ := hm.wellFormed.mem_below_iff.1 hj
    exact ⟨⟨j, hwithin, rfl⟩, _, hm.ask_handle hwithin.lt_size _, List.mem_map_of_mem hij⟩
  · rintro ⟨⟨j, hwithin, rfl⟩, above, hup, hmem⟩
    obtain rfl : m.handles (m.tree.ancestors j) = above :=
      Except.ok.inj ((hm.ask_handle hwithin.lt_size _).symm.trans hup)
    have hlt := fun k => Tree.lt_size_of_mem_ancestors (j := k) hwithin.lt_size
    have hij := (hm.mem_handles_iff hlt hi).1 hmem
    exact ⟨j, hm.wellFormed.mem_below_iff.2 ⟨hwithin, hij⟩, rfl⟩

/-- The way up from a node goes against document order, and ends at the root. -/
theorem Numbered.ancestors_lead_up (hm : m.Numbered) (hi : i < m.size) :
    (m.handles (m.tree.ancestors i)).Pairwise (fun x y => y.precedes x) ∧
      (m.handles (m.tree.ancestors i)).getLast? =
        if m.handle i = m.document then none else some m.document := by
  have hroot : 0 < m.size := by omega
  have hlt : ∀ j ∈ m.tree.ancestors i, j < m.size := fun _ => Tree.lt_size_of_mem_ancestors hi
  constructor
  · refine List.pairwise_map.2 ((m.tree.sorted_ancestors i).imp_of_mem fun hj hk hjk => ?_)
    rw [hm.precedes_handle (hlt _ hk) (hlt _ hj)]
    exact decide_eq_true hjk
  · rw [handles, List.getLast?_map, hm.wellFormed.getLast?_ancestors hi, document]
    simp only [hm.handle_inj hi hroot]
    split <;> rfl

/-- The next sibling of a node has it as its previous one. -/
theorem Numbered.nextSibling_eq_some_iff (hm : m.Numbered) :
    m.nextSibling x = .ok (some y) ↔ m.previousSibling y = .ok (some x) := by
  have hwf := hm.wellFormed
  constructor
  · intro h
    obtain ⟨i, hi, rfl, hnext⟩ := exists_of_ask h
    obtain ⟨j, hij, rfl⟩ := Option.map_eq_some_iff.1 hnext
    have hji := hwf.nextSibling_eq_some_iff.1 hij
    have hj : j < m.size := hwf.lt_size_of_mem_siblingList (Tree.mem_of_itemBefore hji)
    rw [previousSibling, hm.ask_handle hj, hji]
    rfl
  · intro h
    obtain ⟨j, hj, rfl, hprevious⟩ := exists_of_ask h
    obtain ⟨i, hji, rfl⟩ := Option.map_eq_some_iff.1 hprevious
    have hij := hwf.nextSibling_eq_some_iff.2 hji
    have hi : i < m.size := hwf.lt_size_of_mem_siblingList (Tree.mem_of_itemAfter hij)
    rw [nextSibling, hm.ask_handle hi, hij]
    rfl

/-- From the first child of a node the way from sibling to sibling goes along all its children. -/
theorem Numbered.follows_children (hm : m.Numbered) {first : Nat} {rest : List Nat}
    (hchildren : m.tree.childrenOf i = first :: rest) :
    Follows m.nextSibling (m.handle first) (m.handles (m.tree.childrenOf i)) := by
  have hmem : first ∈ m.tree.childrenOf i := by simp [hchildren]
  have hlist := hm.wellFormed.siblingList_of_mem_childrenOf hmem
  have hfollows := (hm.follows_siblings (hm.wellFormed.lt_size_of_mem_children hmem)).1
  have hrest : Tree.itemsAfter first ([] ++ first :: rest) = rest := Tree.itemsAfter_append (by simp)
  rw [List.nil_append] at hrest
  rw [Axis.numbers, hlist, hchildren, hrest] at hfollows
  rw [hchildren]
  exact hfollows

/-- All that a model tells of the places of its nodes describes one tree. Below a node are the
nodes, attributes and namespaces apart, that have it above them; those below stand in document
order, those above against it up to the document. One node is the next sibling of another if that
one is its previous sibling; and from the first child of a node on the siblings are its
children. -/
theorem Reachable.navigation_agrees (hm : m.Reachable) :
    (∀ n, m.contains n = true → ∃ below above next previous,
      m.descendants n false = .ok below ∧ m.ancestors n false = .ok above ∧
      m.nextSibling n = .ok next ∧ m.previousSibling n = .ok previous ∧
      (∀ x, x ∈ below ↔
        m.IsTreeNode x ∧ ∃ aboveIt, m.ancestors x false = .ok aboveIt ∧ n ∈ aboveIt) ∧
      below.Pairwise (·.precedes ·) ∧ above.Pairwise (fun x y => y.precedes x) ∧
      above.getLast? = if n = m.document then none else some m.document) ∧
    (∀ x y, m.nextSibling x = .ok (some y) ↔ m.previousSibling y = .ok (some x)) ∧
    ∀ x p, m.parent x = .ok (some p) → ∃ children, m.children p = .ok children ∧
      (m.IsTreeNode x → x ∈ children) ∧
      ∀ first, children.head? = some first → Follows m.nextSibling first children := by
  have hn := hm.numbered
  have hwf := hm.wellFormed
  refine ⟨fun n hcontains => ?_, fun x y => hn.nextSibling_eq_some_iff, fun x p hparent => ?_⟩
  · obtain ⟨i, hi, rfl⟩ := exists_handle_of_contains hcontains
    have hbelow := hn.sorted_handles (fun _ => hwf.lt_size_of_mem_below) (hwf.sorted_below hi)
    obtain ⟨habove, htop⟩ := hn.ancestors_lead_up hi
    exact ⟨_, _, _, _, hn.ask_handle hi _, hn.ask_handle hi _, hn.ask_handle hi _, hn.ask_handle hi _,
      fun x => hn.mem_handles_below_iff hi, hbelow, habove, htop⟩
  · obtain ⟨i, hi, rfl, hup⟩ := exists_of_ask hparent
    obtain ⟨p, hp, rfl⟩ := Option.map_eq_some_iff.1 hup
    have hlt : p < m.size := Nat.lt_trans (hwf.parentOf_lt hp) hi
    refine ⟨_, hn.ask_handle hlt _, fun hnode => ?_, fun first hfirst => ?_⟩
    · obtain ⟨j, hwithin, heq⟩ := (isTreeNode_iff hn).1 hnode
      obtain rfl := (hn.handle_inj hi hwithin.lt_size).1 heq
      exact List.mem_map_of_mem (hwf.mem_childrenOf_iff_within.2 ⟨hp, hwithin⟩)
    · rw [handles, List.head?_map] at hfirst
      obtain ⟨j, hj, rfl⟩ := Option.map_eq_some_iff.1 hfirst
      obtain ⟨rest, hchildren⟩ := List.head?_eq_some_iff.1 hj
      exact hn.follows_children hchildren

/-- The text below the element of the uneven batch, and the children of its root. -/
theorem Reachable.navigation_agrees_uneven :
    ∃ m : Model, m.Reachable ∧
      m.descendants (m.handle 2) false = .ok [m.handle 5] ∧
      (m.IsTreeNode (m.handle 5) ∧
        ∃ above, m.ancestors (m.handle 5) false = .ok above ∧ m.handle 2 ∈ above) ∧
      m.nextSibling (m.handle 1) = .ok (some (m.handle 2)) ∧
      m.previousSibling (m.handle 2) = .ok (some (m.handle 1)) ∧
      Follows m.nextSibling (m.handle 1) [m.handle 1, m.handle 2, m.handle 6, m.handle 7] := by
  have h : Reachable ((emptyFragment ⟨0⟩).append unevenBatch).2 := .append _ (.fragment _)
  generalize hm : ((emptyFragment ⟨0⟩).append unevenBatch).2 = m at h
  obtain ⟨hplaces, hsiblings, hchildren⟩ := h.navigation_agrees
  have hsize : m.size = 8 := by rw [← hm]; rfl
  have hparent : m.parent (m.handle 1) = .ok (some (m.handle 0)) := by rw [← hm]; rfl
  have hdown : m.descendants (m.handle 2) false = .ok [m.handle 5] := by rw [← hm]; decide +kernel
  have hnext : m.nextSibling (m.handle 1) = .ok (some (m.handle 2)) := by rw [← hm]; rfl
  have hall : m.children (m.handle 0) = .ok [m.handle 1, m.handle 2, m.handle 6, m.handle 7] := by
    rw [← hm]
    rfl
  have hcontains := h.numbered.contains_handle (i := 2) (by omega)
  obtain ⟨below, _, _, _, hbelow, _, _, _, hmem, _⟩ := hplaces _ hcontains
  obtain rfl := Except.ok.inj (hdown.symm.trans hbelow)
  obtain ⟨children, hlist, -, hfollows⟩ := hchildren _ _ hparent
  obtain rfl := Except.ok.inj (hall.symm.trans hlist)
  exact ⟨m, h, hdown, (hmem _).1 (by simp), hnext, (hsiblings _ _).1 hnext, hfollows _ rfl⟩

end Model

end Grove

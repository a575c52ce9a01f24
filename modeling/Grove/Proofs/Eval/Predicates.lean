/-
Predicates of steps. An axis lists its nodes in document order, or against it if it is reverse
(`Model.Reachable.directed_nodes`), and predicates leave a part of the list they are given. So
the predicates of a step along a forward axis are those of a filter over the step without them,
while along a reverse axis they count from the last node, and what they leave is turned back
(`Expr.predicates_count_along_axis`).
-/
import Grove.Proofs.Eval.Alike
import Grove.Proofs.Eval.Path

namespace Grove

open Eval

/-! ## Lists that have a direction -/

/-- Whether nodes stand in document order, or against it for a reverse axis. -/
def Axis.Directed (axis : Axis) (hs : List NodeHandle) : Prop :=
  hs.Pairwise fun x y => if axis.isReverse then y.precedes x else x.precedes y

namespace Axis

variable {axis : Axis} {hs : List NodeHandle}

theorem directed_of_forward (h : axis.isReverse = false) :
    axis.Directed hs ↔ hs.Pairwise (·.precedes ·) := by
  simp [Directed, h]

theorem directed_of_reverse (h : axis.isReverse = true) :
    axis.Directed hs ↔ hs.reverse.Pairwise (·.precedes ·) := by
  simp [Directed, h, List.pairwise_reverse]

end Axis

namespace Model

variable {m : Model} {n : NodeHandle}

/-- Nodes of an axis are in its direction, and what is left of them stays so. -/
theorem Numbered.directed_handles (hm : m.Numbered) {i : Nat} (hi : i < m.size) {axis : Axis}
    {is : List Nat} (his : is.Sublist (axis.numbers m.tree i)) : axis.Directed (m.handles is) := by
  have hlt : ∀ x ∈ is, x < m.size := fun x hx =>
    hm.wellFormed.lt_size_of_mem_numbers hi (his.subset hx)
  have hsorted := (hm.wellFormed.sorted_numbers hi axis).sublist his
  refine List.pairwise_map.2 (hsorted.imp_of_mem fun hx hy hxy => ?_)
  rw [hm.precedes_handle (hlt _ hx) (hlt _ hy), hm.precedes_handle (hlt _ hy) (hlt _ hx)]
  simpa only [decide_eq_true_eq] using hxy

theorem Reachable.directed_nodes (hm : m.Reachable) (hn : m.contains n = true) (axis : Axis) :
    ∃ hs, axis.nodes m n = .ok hs ∧ axis.Directed hs := by
  obtain ⟨i, hi, rfl⟩ := exists_handle_of_contains hn
  exact ⟨_, hm.numbered.nodes_handle hi axis, hm.numbered.directed_handles hi (.refl _)⟩

end Model

/-! ## The nodes of an axis from the node in focus -/

theorem Forest.contains_of_ownerOf {f : Forest} {r : ManagerRef} {h : NodeHandle} {m : Model}
    (howner : f.ownerOf r h = .ok m) : m.contains h = true := by
  obtain ⟨ref, hown, rfl⟩ := map_eq_ok_iff.1 howner
  unfold ownerRef at hown
  split at hown
  next held _ =>
    split at hown
    next hcontains =>
      obtain rfl := Except.ok.inj hown
      exact hcontains
    next => cases hown
  next => cases hown

theorem Caller.ownerOf_eq_ok_iff {c : Caller} {h : NodeHandle} {m : Model} :
    c.ownerOf h = .ok m ↔ ∃ r, c.manager = some r ∧ c.forest.ownerOf r h = .ok m := by
  unfold ownerOf manager?
  cases c.manager with
  | none => simp [bind, Except.bind]
  | some r =>
    show (c.forest.ownerOf r h).mapError Error.ofTree = _ ↔ _
    cases hown : c.forest.ownerOf r h <;> simp [Except.mapError, hown]

/-- A model answers for a node that it is found for. -/
theorem Caller.ask_of_ownerOf {α : Type} {c : Caller} {h : NodeHandle} {m : Model}
    (howner : c.ownerOf h = .ok m) (answer : Nat → α) : m.ask h answer = .ok (answer h.index.toNat) := by
  obtain ⟨r, -, hown⟩ := ownerOf_eq_ok_iff.1 howner
  rw [Model.ask, Model.locate, if_pos (Forest.contains_of_ownerOf hown)]
  rfl

theorem Caller.exists_focus_of_currentNode {c : Caller} {n : NodeHandle}
    (h : c.currentNode = .ok (some n)) :
    ∃ position size, c.focus = some ⟨.node n, position, size⟩ := by
  unfold currentNode focus? at h
  cases hfocus : c.focus with
  | none => simp [hfocus, Except.map] at h
  | some focus =>
    obtain ⟨item, position, size⟩ := focus
    cases item <;> simp [hfocus, Except.map, Value.asNode?] at h
    exact ⟨position, size, by rw [h]⟩

/-- The model of the node in focus, if there is one, came about by operations. -/
def Context.FocusReachable (c : Context) (f : Forest) : Prop :=
  ∀ n m, (c.caller f).currentNode = .ok (some n) → (c.caller f).ownerOf n = .ok m → m.Reachable

/-- All models that the manager of a context knows came about by operations. -/
def Context.KnowsReachable (c : Context) (f : Forest) : Prop :=
  ∀ n m, (c.caller f).ownerOf n = .ok m → m.Reachable

theorem Context.KnowsReachable.focusReachable {c : Context} {f : Forest} (hc : c.KnowsReachable f)
    (focus : List Focus) : ({ c with focus } : Context).FocusReachable f :=
  fun n m _ hm => hc n m hm

namespace Context.FocusReachable

variable {c c' : Context} {f : Forest}

/-- What goes on with the node in focus and its model goes on in a model that came about by
operations. -/
theorem exists_model {α : Type} {why : String} {k : NodeHandle → Model → Eval α} {a : α}
    (hc : c.FocusReachable f)
    (h : (contextNode why >>= fun n => ask (·.ownerOf n) >>= k n) f c = (.ok a, c')) :
    ∃ n m, m.Reachable ∧ m.contains n = true ∧ k n m f c = (.ok a, c') := by
  obtain ⟨n, c₁, hn, h⟩ := bind_eq_ok h
  obtain ⟨node, c₂, hnode, hn⟩ := bind_eq_ok hn
  obtain rfl : c = c₂ := congrArg Prod.snd hnode
  cases node with
  | none => cases congrArg Prod.fst hn
  | some n' =>
    obtain ⟨rfl, rfl⟩ : n' = n ∧ c = c₁ := by simpa [pure, give] using hn
    obtain ⟨m, c₂, hm, h⟩ := bind_eq_ok h
    obtain rfl : c = c₂ := congrArg Prod.snd hm
    have howner : (c.caller f).ownerOf n' = .ok m := congrArg Prod.fst hm
    obtain ⟨r, -, hown⟩ := Caller.ownerOf_eq_ok_iff.1 howner
    exact ⟨n', m, hc n' m (congrArg Prod.fst hnode) howner, Forest.contains_of_ownerOf hown, h⟩

/-- Without predicates, a step comes to nodes in the direction of its axis. -/
theorem directed_reach {axis : Axis} {test : NodeTest} {found : List NodeHandle}
    (hc : c.FocusReachable f) (h : reach axis test f c = (.ok found, c')) : axis.Directed found := by
  obtain ⟨n, m, hm, hn, h⟩ := hc.exists_model h
  obtain ⟨i, hi, rfl⟩ := Model.exists_handle_of_contains hn
  have hfound := congrArg Prod.fst h
  simp only [Eval.ofExcept, hm.numbered.candidates_handle hi] at hfound
  obtain rfl : m.handles (axis.selected test m i) = found := Except.ok.inj hfound
  exact hm.numbered.directed_handles hi List.filter_sublist

end Context.FocusReachable

/-! ## Sorting what has a direction -/

namespace NodeHandle

variable {hs : List NodeHandle}

theorem sort_eq_self (h : hs.Pairwise (·.precedes ·)) : sort hs = hs := by
  refine List.mergeSort_of_pairwise (h.imp fun hab => ?_)
  simp only [precedes, atOrBefore, decide_eq_true_eq] at hab ⊢
  exact UInt64.le_of_lt hab

theorem sortDistinct_eq_self (h : hs.Pairwise (·.precedes ·)) : sortDistinct hs = hs :=
  eq_of_sorted (sorted_sortDistinct hs) h fun _ => mem_sortDistinct

theorem sort_eq_reverse (h : hs.reverse.Pairwise (·.precedes ·)) : sort hs = hs.reverse := by
  have hnodup : hs.reverse.Nodup := by
    refine h.imp fun hab heq => ?_
    simp [heq, precedes] at hab
  refine eq_of_sorted (sorted_sort_of_nodup (List.nodup_reverse.1 hnodup)) h fun n => ?_
  rw [mem_sort, List.mem_reverse]

end NodeHandle

namespace Expr

variable {f : Forest} {c : Context} {axis : Axis}

/-- What predicates leave of nodes are nodes in the same order. -/
theorem nodes_of_keepAll {ps : List Expr} {hs : List NodeHandle} {kept : List Value} {c' : Context}
    (h : keepAll ps (hs.map .node) f c = (.ok kept, c')) :
    ∃ left : List NodeHandle, left.Sublist hs ∧ kept = left.map .node :=
  List.sublist_map_iff.1 (sublist_keepAll h)

theorem evaluateAll_bare_step (axis : Axis) (test : NodeTest) :
    (step axis test []).evaluateAll = (do
      let found ← reach axis test
      pure ((NodeHandle.sort found).map .node)) := by
  refine (evaluateAll_step axis test []).trans (bind_congr fun found => ?_)
  rw [keepAll, pure_bind, filterMap_asNode?_nodes]

/-- Along a forward axis there is nothing to bring into order. -/
theorem evaluateAll_step_of_forward (haxis : axis.isReverse = false) (test : NodeTest) (ps : List Expr)
    (hc : c.FocusReachable f) :
    (apply (.step axis test) (ps.map some)).evaluateAll f c =
      (reach axis test >>= fun found => keepAll ps (found.map .node)) f c := by
  rw [evaluateAll_step]
  refine bind_congr_at rfl fun found c' hfound => ?_
  have hsorted := (Axis.directed_of_forward haxis).1 (hc.directed_reach hfound)
  rcases hkeep : keepAll ps (found.map .node) f c' with ⟨e | kept, c''⟩
  · exact bind_of_error _ hkeep
  · obtain ⟨left, hleft, rfl⟩ := nodes_of_keepAll hkeep
    rw [bind_of_ok _ hkeep, filterMap_asNode?_nodes, NodeHandle.sort_eq_self (hsorted.sublist hleft)]
    rfl

/-- A step along a forward axis goes on behind its last predicate as a filter over it does. -/
theorem evaluateAll_step_append (haxis : axis.isReverse = false) (test : NodeTest) (ps qs : List Expr)
    (hc : c.FocusReachable f) :
    (apply (.step axis test) ((ps ++ qs).map some)).evaluateAll f c =
      (apply .filter ((apply (.step axis test) (ps.map some) :: qs).map some)).evaluateAll f c := by
  have hstep := evaluateAll_step_of_forward haxis test ps hc
  rw [evaluateAll_step_of_forward haxis test _ hc, evaluateAll_filter]
  simp only [keepAll_append]
  rw [← bind_assoc]
  exact bind_congr_at hstep.symm fun _ _ _ => rfl

/-- What predicates, as they are attached, leave of the items of an expression from the last to the
first, as nodes in document order. -/
def keptBackwards (e : Expr) (ps : List Expr) : Eval (List Value) := do
  let found ← e.evaluateAll
  let kept ← keepAll (ps.map reduce) found.reverse
  pure ((NodeHandle.sort (kept.filterMap (·.asNode?))).map .node)

theorem evaluateAll_step_reverse (haxis : axis.isReverse = true) (test : NodeTest) (ps : List Expr)
    (hc : c.FocusReachable f) :
    (step axis test ps).evaluateAll f c = keptBackwards (step axis test []) ps f c := by
  rw [step_eq, evaluateAll_step, keptBackwards, evaluateAll_bare_step, bind_assoc]
  refine bind_congr_at rfl fun found c' hfound => ?_
  have hsorted := (Axis.directed_of_reverse haxis).1 (hc.directed_reach hfound)
  rw [pure_bind, NodeHandle.sort_eq_reverse hsorted, ← List.map_reverse, List.reverse_reverse]

/-- An axis comes to the nodes of a model in its direction. So along a forward axis the
predicates of a step are those of a filter over the step without them, and along a reverse axis
they count from the last node that this step gives to the first. -/
theorem predicates_count_along_axis (axis : Axis) :
    (∀ m n, m.Reachable → m.contains n = true → ∃ hs, axis.nodes m n = .ok hs ∧
      hs.Pairwise fun x y => if axis.isReverse then y.precedes x else x.precedes y) ∧
    ∀ (test : NodeTest) (ps : List Expr) (f : Forest) (c : Context), c.FocusReachable f →
      (axis.isReverse = false →
        (step axis test ps).evaluateAll f c = (filter (step axis test []) ps).evaluateAll f c) ∧
      (axis.isReverse = true →
        (step axis test ps).evaluateAll f c = keptBackwards (step axis test []) ps f c) := by
  refine ⟨fun m n hm hn => hm.directed_nodes hn axis, fun test ps f c hc => ⟨?_, ?_⟩⟩
  · intro haxis
    rw [step_eq, filter_eq]
    exact evaluateAll_step_append haxis test [] (ps.map reduce) hc
  · exact fun haxis => evaluateAll_step_reverse haxis test ps hc

end Expr

/-- The fragment of the uneven forest. -/
def Model.uneven : Model := ((emptyFragment ⟨0⟩).append unevenBatch).2

theorem Model.reachable_uneven : uneven.Reachable := .append _ (.fragment _)

/-- A context with the text inside the element of the uneven batch in focus. -/
def Context.inUneven : Context where
  manager := some ⟨0⟩
  focus := [⟨.node (Model.uneven.handle 5), 1, 1⟩]

namespace Context

theorem at_inUneven : inUneven.At Forest.uneven Model.uneven 5 :=
  at_of_ownerOf Model.reachable_uneven.numbered rfl rfl rfl (by decide)

theorem knowsReachable_inUneven : inUneven.KnowsReachable Forest.uneven := by
  intro n m hm
  obtain ⟨r, hr, hown⟩ := Caller.ownerOf_eq_ok_iff.1 hm
  obtain rfl : ⟨0⟩ = r := Option.some_inj.1 hr
  obtain ⟨ref, howned, rfl⟩ := map_eq_ok_iff.1 hown
  obtain ⟨manager, hmanager, hlive, hpooled⟩ : ∃ manager, Forest.uneven.manager? ⟨0⟩ = some manager ∧
      manager.live.values = [⟨0, ⟨0⟩, none, true⟩] ∧ manager.pooledIds.entries = [] :=
    ⟨_, rfl, rfl, rfl⟩
  have hnone : ∀ id, manager.pooled? id = none := fun id => by
    simp [Manager.pooled?, Table.get?, hpooled]
  replace howned : Forest.uneven.ownerRef ⟨0⟩ n = .ok ref := howned
  unfold Forest.ownerRef at howned
  rw [hmanager, Option.bind_some, Manager.holder?, hnone] at howned
  cases hget : manager.live.get? n.model with
  | none =>
    rw [hget] at howned
    cases howned
  | some held =>
    rw [hget] at howned
    obtain rfl : held = ⟨0, ⟨0⟩, none, true⟩ := by
      simpa [hlive] using Table.mem_values_of_get? hget
    dsimp only at howned
    split at howned
    · obtain rfl := Except.ok.inj howned
      exact Model.reachable_uneven
    · cases howned

theorem focusReachable_inUneven : inUneven.FocusReachable Forest.uneven :=
  knowsReachable_inUneven.focusReachable inUneven.focus

end Context

namespace Expr

/-- From the text inside the element of the uneven batch the first node up is the element. -/
theorem predicates_count_along_axis_uneven :
    Model.uneven.Reachable ∧ Model.uneven.contains (Model.uneven.handle 5) = true ∧
      Context.inUneven.FocusReachable Forest.uneven ∧
      Axis.ancestor.nodes Model.uneven (Model.uneven.handle 5) =
        .ok [Model.uneven.handle 2, Model.uneven.handle 0] ∧
      [Model.uneven.handle 2, Model.uneven.handle 0].Pairwise (fun x y => y.precedes x = true) ∧
      (step .ancestor (.kind .anyNode) [integer 1]).evaluateAll Forest.uneven .inUneven =
        keptBackwards (step .ancestor (.kind .anyNode) []) [integer 1] Forest.uneven .inUneven ∧
      (step .following (.kind .anyNode) [integer 1]).evaluateAll Forest.uneven .inUneven =
        (filter (step .following (.kind .anyNode) []) [integer 1]).evaluateAll Forest.uneven .inUneven := by
  have h := Model.reachable_uneven
  have hfocus := Context.focusReachable_inUneven
  have hlt := Context.at_inUneven.lt_size
  have hcontains := h.numbered.contains_handle hlt
  have hnumbers : Axis.ancestor.numbers Model.uneven.tree 5 = [2, 0] := by decide +kernel
  have hnodes : Axis.ancestor.nodes Model.uneven (Model.uneven.handle 5) =
      .ok [Model.uneven.handle 2, Model.uneven.handle 0] := by
    rw [h.numbered.nodes_handle hlt, hnumbers]
    rfl
  obtain ⟨hup, hcountUp⟩ := predicates_count_along_axis .ancestor
  obtain ⟨-, hcountDown⟩ := predicates_count_along_axis .following
  obtain ⟨hs, hhs, hdirected⟩ := hup Model.uneven (Model.uneven.handle 5) h hcontains
  obtain rfl : [Model.uneven.handle 2, Model.uneven.handle 0] = hs := Except.ok.inj (hnodes.symm.trans hhs)
  exact ⟨h, hcontains, hfocus, hnodes, hdirected,
    (hcountUp (.kind .anyNode) [integer 1] _ _ hfocus).2 rfl,
    (hcountDown (.kind .anyNode) [integer 1] _ _ hfocus).1 rfl⟩

end Expr

end Grove

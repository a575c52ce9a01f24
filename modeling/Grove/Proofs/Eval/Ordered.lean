/-
The order of what paths come to. Every step of a path but a first one brings what it finds into
document order, or finds no node at all (`Eval.exists_of_steps_cons`), and the steps behind it do
the same again, whatever they are. So what a path comes to is in order from its start on, and
from its second step on if it starts anywhere (`Expr.path_in_order`). As every step takes up the
items that the steps before it have left, and nothing else, a path may be taken apart between any
two of its steps (`Expr.path_goes_on`). And as a model lists all its nodes in document order, a
path that starts from all of them is one whose first step leads to them from the root
(`Expr.path_from_all_nodes`).
-/
import Grove.Proofs.Eval.Predicates

namespace Grove

open Eval

variable {f : Forest} {c c' : Context} {vs found : List Value}

/-- Items as a path comes to them: nodes in document order, each once, or nothing that is a
node. -/
def Value.InOrder (vs : List Value) : Prop :=
  (∃ hs : List NodeHandle, vs = hs.map .node ∧ hs.Pairwise (·.precedes ·)) ∨
    ∀ v ∈ vs, v.isNode = false

namespace Model.Numbered

variable {m : Model} {i : Nat}

/-- All that is below a node and the node itself, in document order. -/
theorem sorted_subtree_handles (hm : m.Numbered) (hi : i < m.size) :
    (m.handles (m.tree.subtree i)).Pairwise (·.precedes ·) :=
  hm.sorted_handles (fun _ => hm.wellFormed.lt_size_of_mem_subtree hi) (hm.wellFormed.sorted_subtree hi)

/-- A step down from a node leads to the node and to all that is below it. -/
theorem inOrder_subtree (hm : m.Numbered) (hi : i < m.size) :
    m.inOrder (Axis.descendantOrSelf.selected (.kind .anyNode) m i) = m.tree.subtree i := by
  have hsorted : (m.inOrder (Axis.descendantOrSelf.selected (.kind .anyNode) m i)).Pairwise (· < ·) :=
    List.pairwise_lt_range.filter _
  refine hsorted.eq_of_mem_iff (hm.wellFormed.sorted_subtree hi) fun x => ?_
  rw [mem_inOrder, hm.mem_selected_anyNode hi]
  exact and_iff_right_of_imp fun hx => hm.wellFormed.lt_size_of_mem_subtree hi hx

end Model.Numbered

/-- A path from the root has a model to start in, or it fails, wherever in the model it starts. -/
theorem Context.FocusReachable.at_or_fails (hc : c.FocusReachable f) :
    (∃ m i, m.Numbered ∧ c.At f m i) ∨ ∃ e, ∀ whole, origin whole f c = (.error e, c) := by
  cases hnode : (c.caller f).currentNode with
  | error e =>
    refine .inr ⟨e, fun whole => bind_of_error _ (bind_of_error _ ?_)⟩
    exact congrArg (·, c) hnode
  | ok node =>
    have hask : ask (·.currentNode) f c = (.ok node, c) := congrArg (·, c) hnode
    cases node with
    | none => exact .inr ⟨_, fun whole => bind_of_error _ (bind_of_ok _ hask)⟩
    | some n =>
      cases howner : (c.caller f).ownerOf n with
      | error e =>
        refine .inr ⟨e, fun whole => (bind_of_ok _ (bind_of_ok _ hask)).trans (bind_of_error _ ?_)⟩
        exact congrArg (·, c) howner
      | ok m =>
        obtain ⟨position, size, hfocus⟩ := Caller.exists_focus_of_currentNode hnode
        obtain ⟨r, hmanager, hown⟩ := Caller.ownerOf_eq_ok_iff.1 howner
        obtain ⟨i, hi, rfl⟩ := Model.exists_handle_of_contains (Forest.contains_of_ownerOf hown)
        have hm := (hc _ _ hnode howner).numbered
        exact .inl ⟨m, i, hm, Context.at_of_ownerOf hm hmanager hfocus hown hi⟩

namespace Eval

theorem inOrder_inDocumentOrder (h : inDocumentOrder vs = .ok found) : Value.InOrder found := by
  unfold inDocumentOrder at h
  dsimp only at h
  split at h
  next hnone =>
    obtain rfl := Except.ok.inj h
    refine .inr fun v hv => ?_
    have hv := List.filterMap_eq_nil_iff.1 (List.isEmpty_iff.1 hnone) v hv
    cases v <;> simp_all [Value.asNode?, Value.isNode]
  next =>
    split at h
    · obtain rfl := Except.ok.inj h
      exact .inl ⟨_, rfl, NodeHandle.sorted_sortDistinct _⟩
    · cases h

/-- A step leaves single items in order to the steps behind it. -/
theorem exists_of_steps_cons {slots : Slots} {place : Nat} {places : List Nat}
    (h : steps slots (place :: places) vs f c = (.ok found, c')) :
    ∃ vs' c₁, Value.InOrder vs' ∧ (∀ v ∈ vs', v.isSequence = false) ∧
      steps slots places vs' f c₁ = (.ok found, c') := by
  obtain ⟨x, c₁, -, h⟩ := bind_eq_ok h
  obtain ⟨nodes, c₂, -, h⟩ := bind_eq_ok h
  obtain ⟨items, c₃, hitems, h⟩ := bind_eq_ok h
  obtain ⟨ordered, c₄, hordered, h⟩ := bind_eq_ok h
  have hordered : inDocumentOrder items = .ok ordered := congrArg Prod.fst hordered
  exact ⟨ordered, c₄, inOrder_inDocumentOrder hordered,
    Expr.single_inDocumentOrder hordered (Expr.single_stepFrom hitems), h⟩

theorem inOrder_steps {slots : Slots} {places : List Nat}
    (h : steps slots places vs f c = (.ok found, c')) (hvs : Value.InOrder vs)
    (hsingle : ∀ v ∈ vs, v.isSequence = false) :
    Value.InOrder found ∧ ∀ v ∈ found, v.isSequence = false := by
  induction places generalizing vs c with
  | nil =>
    obtain rfl : vs = found := Except.ok.inj (congrArg Prod.fst h)
    exact ⟨hvs, hsingle⟩
  | cons place places ih =>
    obtain ⟨vs', c₁, hordered, hsingle', hrest⟩ := exists_of_steps_cons h
    exact ih hrest hordered hsingle'

theorem inOrder_origin {whole : Bool} (hc : c.FocusReachable f)
    (h : origin whole f c = (.ok found, c')) : Value.InOrder found := by
  rcases hc.at_or_fails with ⟨m, i, hm, hat⟩ | ⟨e, hfails⟩
  · have hroot : 0 < m.size := hm.wellFormed.within_zero.lt_size
    rw [hat.origin_eq hm whole] at h
    obtain rfl := Except.ok.inj (congrArg Prod.fst h)
    refine .inl ⟨_, rfl, ?_⟩
    cases whole with
    | false => exact List.pairwise_singleton _ _
    | true => exact hm.sorted_subtree_handles hroot
  · rw [hfails] at h
    cases congrArg Prod.fst h

end Eval

namespace Expr

theorem inOrder_of_collect {x : Eval (List Value)}
    (hx : ∀ found c', x f c = (.ok found, c') → Value.InOrder found ∧ ∀ v ∈ found, v.isSequence = false)
    (h : items (x >>= fun found => pure (.collect found)) f c = (.ok vs, c')) : Value.InOrder vs := by
  obtain ⟨v, c₁, hv, h⟩ := bind_eq_ok h
  obtain ⟨found, c₂, hfound, hv⟩ := bind_eq_ok hv
  obtain rfl : Value.collect found = v := Except.ok.inj (congrArg Prod.fst hv)
  obtain ⟨hordered, hsingle⟩ := hx found c₂ hfound
  have hvs : (Value.collect found).flatten f = .ok vs := congrArg Prod.fst h
  obtain rfl : found = vs := Except.ok.inj ((Value.flatten_collect hsingle).symm.trans hvs)
  exact hordered

theorem inOrder_rooted {whole : Bool} {slots : Slots} (hc : c.FocusReachable f)
    (h : items (do
      let start ← origin whole
      let found ← steps slots (List.range slots.length) start
      pure (.collect found)) f c = (.ok vs, c')) : Value.InOrder vs := by
  rw [← bind_assoc] at h
  refine inOrder_of_collect (fun found c' hfound => ?_) h
  obtain ⟨start, c₁, hstart, hfound⟩ := bind_eq_ok hfound
  exact inOrder_steps hfound (inOrder_origin hc hstart) (single_origin hstart)

/-- What a path comes to that starts at the root or has a second step is in order, whatever its
steps are. -/
theorem path_in_order {start : PathStart} {slots : List (Option Expr)}
    (hpath : start ≠ .relative ∨ 2 ≤ slots.length) (hc : c.FocusReachable f)
    (h : (apply (.path start) slots).evaluateAll f c = (.ok vs, c')) : Value.InOrder vs := by
  cases start with
  | relative =>
    obtain ⟨first, second, rest, rfl⟩ : ∃ first second rest, slots = first :: second :: rest := by
      match slots, hpath.resolve_left (absurd rfl) with
      | first :: second :: rest, _ => exact ⟨first, second, rest, rfl⟩
    have hplaces : List.range (evaluateSlots (first :: second :: rest)).length =
        0 :: 1 :: List.range' 2 rest.length := by
      simp [length_evaluateSlots, List.range_eq_range', List.range'_succ]
    replace h : items (Eval.path .relative (evaluateSlots (first :: second :: rest))) f c = (.ok vs, c') := h
    rw [Eval.path, hplaces] at h
    simp only [← bind_assoc] at h
    refine inOrder_of_collect (fun found c' hfound => ?_) h
    obtain ⟨items, c₁, -, hfound⟩ := bind_eq_ok hfound
    obtain ⟨vs', c₂, hordered, hsingle, hrest⟩ := exists_of_steps_cons hfound
    exact inOrder_steps hrest hordered hsingle
  | root => exact inOrder_rooted hc h
  | rootDescendants => exact inOrder_rooted hc h

/-- From the text inside the element of the uneven batch, the children of all that it is in. -/
theorem path_in_order_uneven :
    Context.inUneven.FocusReachable Forest.uneven ∧
      (path .relative [step .ancestorOrSelf (.kind .anyNode) [], step .child (.kind .anyNode) []]).evaluateAll
        Forest.uneven .inUneven =
          (.ok ((Model.uneven.handles [1, 2, 5, 6, 7]).map .node), .inUneven) ∧
      Value.InOrder ((Model.uneven.handles [1, 2, 5, 6, 7]).map .node) := by
  have hfocus := Context.focusReachable_inUneven
  have hwalk : Model.uneven.walk [(.ancestorOrSelf, .kind .anyNode), (.child, .kind .anyNode)] [5] =
      [1, 2, 5, 6, 7] := by
    decide +kernel
  have hpath : (path .relative [step .ancestorOrSelf (.kind .anyNode) [],
      step .child (.kind .anyNode) []]).evaluateAll Forest.uneven .inUneven =
        (.ok ((Model.uneven.handles [1, 2, 5, 6, 7]).map .node), .inUneven) := by
    rw [← hwalk]
    exact evaluateAll_of_nodes (Context.at_inUneven.evaluate_path Model.reachable_uneven.numbered
      .ancestorOrSelf (.kind .anyNode) [(.child, .kind .anyNode)])
  exact ⟨hfocus, hpath, path_in_order (.inr (by decide)) hfocus hpath⟩

/-- A path may be broken off anywhere behind its start, and a path that has this part of it as its
first step goes on with the steps that are missing: to the same items, or to the same failure. -/
theorem path_goes_on {start : PathStart} {es : List Expr} (h : start ≠ .relative ∨ es ≠ [])
    (es' : List Expr) :
    (path start (es ++ es')).evaluateAll = (path .relative (path start es :: es')).evaluateAll := by
  funext f c
  have hstart : start ≠ .relative ∨ es.map reduce ≠ [] := h.imp_right fun hes => by simpa using hes
  have hfirst : (path start es).reduce = path start es := reduce_apply rfl _
  rw [path_eq, path_eq .relative, List.map_append, List.map_cons, hfirst, path_eq]
  exact Alike.path_append hstart (es'.map reduce) c.focus

/-- From the root of the uneven batch to what is below its element, in one path and in two. -/
theorem path_goes_on_uneven :
    (PathStart.root ≠ .relative ∨ [step .child (.kind (.element none)) []] ≠ []) ∧
      (path .root ([step .child (.kind (.element none)) []] ++ [step .child (.kind .anyNode) []])).evaluateAll =
        (path .relative (path .root [step .child (.kind (.element none)) []] ::
          [step .child (.kind .anyNode) []])).evaluateAll ∧
      (path .relative [path .root [step .child (.kind (.element none)) []],
        step .child (.kind .anyNode) []]).evaluateAll Forest.uneven .inUneven =
          (.ok ((Model.uneven.handles [5]).map .node), .inUneven) := by
  have hstart : PathStart.root ≠ .relative ∨ [step .child (.kind (.element none)) []] ≠ [] := .inl (by decide)
  have hregroup := path_goes_on hstart [step .child (.kind .anyNode) []]
  have hwalk : Model.uneven.walk [(.child, .kind (.element none)), (.child, .kind .anyNode)] [0] = [5] := by
    decide +kernel
  refine ⟨hstart, hregroup, (congrFun (congrFun hregroup _) _).symm.trans ?_⟩
  rw [← hwalk]
  exact evaluateAll_of_nodes (Context.at_inUneven.evaluate_rooted_path
    Model.reachable_uneven.numbered false [(.child, .kind (.element none)), (.child, .kind .anyNode)])

/-! ## The start from all nodes -/

/-- The step to a node and all that is below it. -/
def wholeStep : Expr := step .descendantOrSelf (.kind .anyNode) []

/-- All nodes of a model, as a path starts from them, are where that step leads from its root. -/
theorem origin_eq_wholeStep (hc : c.FocusReachable f) :
    origin true f c = (origin false >>= stepAll [wholeStep]) f c := by
  rcases hc.at_or_fails with ⟨m, i, hm, hat⟩ | ⟨e, hfails⟩
  · have hroot : 0 < m.size := hm.wellFormed.within_zero.lt_size
    have hstart : ∀ j ∈ [0], j < m.size := by simpa using hroot
    have hfound : stepFrom wholeStep.evaluate (m.handles [0]).length 1 (m.handles [0]) f c =
        (.ok ((m.handles (m.tree.subtree 0)).map .node), c) := by
      refine (hat.stepFrom_eq hm .descendantOrSelf (.kind .anyNode) 1 hstart).trans ?_
      rw [List.flatMap_singleton, hm.inOrder_subtree hroot]
    have hordered : ofExcept (inDocumentOrder ((m.handles (m.tree.subtree 0)).map .node)) f c =
        (.ok ((m.handles (m.tree.subtree 0)).map .node), c) := by
      rw [inDocumentOrder_nodes, NodeHandle.sortDistinct_eq_self (hm.sorted_subtree_handles hroot)]
      rfl
    have hnodes : ofExcept (asNodes ((m.handles [0]).map .node)) f c = (.ok (m.handles [0]), c) :=
      congrArg (·, c) (asNodes_nodes _)
    rw [hat.origin_eq hm true, bind_of_ok _ (hat.origin_eq hm false), if_pos rfl, if_neg Bool.false_ne_true,
      stepAll, bind_of_ok _ hnodes, bind_of_ok _ hfound, bind_of_ok _ hordered]
    rfl
  · rw [hfails, bind_of_error _ (hfails false)]

/-- A path from all nodes of a model is the path from its root whose first step goes to the root
and all that is below it: it comes to the same items, or to the same failure. -/
theorem path_from_all_nodes (hc : c.FocusReachable f) (es : List Expr) :
    (path .rootDescendants es).evaluateAll f c =
      (path .root (step .descendantOrSelf (.kind .anyNode) [] :: es)).evaluateAll f c := by
  have hfirst : wholeStep.reduce = wholeStep := rfl
  rw [path_eq, path_eq, evaluateAll_path_rootDescendants, evaluateAll_path_root]
  have hsteps : (origin false >>= stepAll (wholeStep :: es.map reduce)) =
      (origin false >>= stepAll [wholeStep]) >>= stepAll (es.map reduce) := by
    rw [bind_assoc]
    exact bind_congr fun vs => stepAll_append [wholeStep] (es.map reduce) vs
  exact (bind_congr_at (origin_eq_wholeStep hc) fun _ _ _ => rfl).trans
    (congrFun (congrFun hsteps f) c).symm

/-- All text of the uneven batch, from wherever in it. -/
theorem path_from_all_nodes_uneven :
    Context.inUneven.FocusReachable Forest.uneven ∧
      (path .rootDescendants [step .child (.kind .text) []]).evaluateAll Forest.uneven .inUneven =
        (path .root [step .descendantOrSelf (.kind .anyNode) [],
          step .child (.kind .text) []]).evaluateAll Forest.uneven .inUneven ∧
      (path .root [step .descendantOrSelf (.kind .anyNode) [],
          step .child (.kind .text) []]).evaluateAll Forest.uneven .inUneven =
        (.ok ((Model.uneven.handles [1, 5, 7]).map .node), .inUneven) := by
  have hfocus := Context.focusReachable_inUneven
  have hstart := path_from_all_nodes hfocus [step .child (.kind .text) []]
  have hwalk : Model.uneven.walk [(.child, .kind .text)] (Model.uneven.tree.subtree 0) = [1, 5, 7] := by
    decide +kernel
  refine ⟨hfocus, hstart, hstart.symm.trans ?_⟩
  rw [← hwalk]
  exact evaluateAll_of_nodes (Context.at_inUneven.evaluate_rooted_path
    Model.reachable_uneven.numbered true [(.child, .kind .text)])

end Expr

end Grove

/-
Steps. In a model that the manager of the context knows, a step without predicates leads from
the node in focus to the nodes of its axis that pass its test, in document order
(`Context.At.evaluate_step`); a step in a path leads to all nodes to which it leads from those
before it, each once and in document order again (`Context.At.steps_cons`). What comes of it
depends only on which nodes these are, since they can be in document order in one way
(`Model.Numbered.eq_handles_inOrder`).
-/
import Mathlib.Data.List.Sort
import Grove.Proofs.Eval.Local
import Grove.Proofs.Tree.Axes
import Grove.Proofs.Value.Outcomes

namespace Grove

/-! ## Values of nodes -/

/-- The value of some nodes. -/
def Value.ofNodes (hs : List NodeHandle) : Value := .collect (hs.map .node)

theorem Value.outcomesOfList_nodes (f : Forest) (hs : List NodeHandle) :
    outcomesOfList f (hs.map .node) = (hs.map Value.node).map .ok := by
  induction hs with
  | nil => rfl
  | cons h hs ih => exact congrArg (Except.ok (.node h) :: ·) ih

theorem Value.flatten_ofNodes (f : Forest) (hs : List NodeHandle) :
    (ofNodes hs).flatten f = .ok (hs.map .node) := by
  rw [flatten_eq_ok_iff]
  rcases hs with _ | ⟨h, _ | ⟨h', hs⟩⟩
  · rfl
  · rfl
  · exact outcomesOfList_nodes f (h :: h' :: hs)

namespace Eval

theorem asNodes_nodes (hs : List NodeHandle) : asNodes (hs.map .node) = .ok hs := by
  induction hs with
  | nil => rfl
  | cons h hs ih =>
    rw [List.map_cons, asNodes, ih]
    rfl

theorem filterMap_asNode?_nodes (hs : List NodeHandle) :
    (hs.map Value.node).filterMap (·.asNode?) = hs := by
  rw [List.filterMap_map]
  exact List.filterMap_some

theorem inDocumentOrder_nodes (hs : List NodeHandle) :
    inDocumentOrder (hs.map .node) = .ok ((NodeHandle.sortDistinct hs).map .node) := by
  rw [inDocumentOrder, filterMap_asNode?_nodes]
  cases hs with
  | nil => simp [NodeHandle.sortDistinct, NodeHandle.sort, List.eraseReps, List.eraseRepsBy]
  | cons h hs => simp

variable {x : Eval Value} {f : Forest} {c : Context} {v : Value}

theorem bind_of_ok {α β : Type} {x : Eval α} {a : α} {c' : Context} (k : α → Eval β)
    (h : x f c = (.ok a, c')) : (x >>= k) f c = k a f c' := by
  show Eval.andThen x k f c = _
  rw [Eval.andThen, h]

theorem items_of_ok (h : x f c = (.ok v, c)) : items x f c = (v.flatten f, c) := bind_of_ok _ h

end Eval

theorem Expr.evaluateAll_of_nodes {e : Expr} {f : Forest} {c : Context} {hs : List NodeHandle}
    (h : e.evaluate f c = (.ok (.ofNodes hs), c)) : e.evaluateAll f c = (.ok (hs.map .node), c) := by
  rw [evaluateAll, Eval.items_of_ok h, Value.flatten_ofNodes]

/-- Handles can stand in document order in one way. -/
theorem NodeHandle.eq_of_sorted {hs hs' : List NodeHandle} (h : hs.Pairwise (·.precedes ·))
    (h' : hs'.Pairwise (·.precedes ·)) (hmem : ∀ n, n ∈ hs ↔ n ∈ hs') : hs = hs' := by
  have hirrefl : Std.Irrefl fun a b : NodeHandle => a.precedes b = true :=
    ⟨fun a => by simp [NodeHandle.precedes]⟩
  have hantisymm : Std.Antisymm fun a b : NodeHandle => a.precedes b = true := by
    refine ⟨fun a b hab hba => ?_⟩
    simp only [NodeHandle.precedes, decide_eq_true_eq] at hab hba
    exact absurd hba (UInt64.lt_asymm hab)
  exact h.eq_of_mem_iff h' hmem

/-! ## Numbers in order -/

namespace Model

variable {m : Model} {is js : List Nat} {i j : Nat}

/-- Nodes in the order of their numbers, each once. -/
def inOrder (m : Model) (is : List Nat) : List Nat := (List.range m.size).filter (is.contains ·)

theorem mem_inOrder : j ∈ m.inOrder is ↔ j < m.size ∧ j ∈ is := by
  simp [inOrder]

theorem inOrder_congr (h : ∀ j, j < m.size → (j ∈ is ↔ j ∈ js)) : m.inOrder is = m.inOrder js := by
  refine List.filter_congr fun j hj => ?_
  simp [h j (List.mem_range.1 hj)]

namespace Numbered

theorem sorted_inOrder (hm : m.Numbered) (is : List Nat) :
    (m.handles (m.inOrder is)).Pairwise (·.precedes ·) :=
  hm.sorted_handles (fun _ hi => (mem_inOrder.1 hi).1) (List.pairwise_lt_range.filter _)

theorem mem_handles_inOrder (his : ∀ i ∈ is, i < m.size) {h : NodeHandle} :
    h ∈ m.handles (m.inOrder is) ↔ h ∈ m.handles is := by
  simp only [handles, List.mem_map, mem_inOrder]
  constructor
  · rintro ⟨i, ⟨-, hi⟩, rfl⟩
    exact ⟨i, hi, rfl⟩
  · rintro ⟨i, hi, rfl⟩
    exact ⟨i, ⟨his i hi, hi⟩, rfl⟩

/-- There is one list of some handles in document order. -/
theorem eq_handles_inOrder (hm : m.Numbered) (his : ∀ i ∈ is, i < m.size) {hs : List NodeHandle}
    (hsorted : hs.Pairwise (·.precedes ·)) (hmem : ∀ h, h ∈ hs ↔ h ∈ m.handles is) :
    hs = m.handles (m.inOrder is) := by
  refine NodeHandle.eq_of_sorted hsorted (hm.sorted_inOrder is) fun h => ?_
  rw [hmem, mem_handles_inOrder his]

theorem sortDistinct_handles (hm : m.Numbered) (his : ∀ i ∈ is, i < m.size) :
    NodeHandle.sortDistinct (m.handles is) = m.handles (m.inOrder is) :=
  hm.eq_handles_inOrder his (NodeHandle.sorted_sortDistinct _) fun _ => NodeHandle.mem_sortDistinct

/-- Without repetitions there is nothing to drop. -/
theorem sort_handles (hm : m.Numbered) (his : ∀ i ∈ is, i < m.size) (hnodup : is.Nodup) :
    NodeHandle.sort (m.handles is) = m.handles (m.inOrder is) := by
  have hnodup : (m.handles is).Nodup := by
    refine List.pairwise_map.2 (hnodup.imp_of_mem fun hi hj hne heq => hne ?_)
    exact (hm.handle_inj (his _ hi) (his _ hj)).1 heq
  exact hm.eq_handles_inOrder his (NodeHandle.sorted_sort_of_nodup hnodup) fun _ => NodeHandle.mem_sort

end Numbered

end Model

/-! ## Tests -/

/-- Whether a node passes the test of a step. -/
def NodeTest.passes (test : NodeTest) (principal : NodeKind) (m : Model) (i : Nat) : Bool :=
  (test.accepts principal m (m.handle i)).toOption.getD false

namespace Model.Numbered

variable {m : Model} {is : List Nat} {i : Nat}

/-- No test fails at a node of the model. -/
theorem accepts_handle (hm : m.Numbered) (hi : i < m.size) (test : NodeTest) (principal : NodeKind) :
    test.accepts principal m (m.handle i) = .ok (test.passes principal m i) := by
  have haccepts : ∃ b, test.accepts principal m (m.handle i) = .ok b := by
    cases test with
    | kind test =>
      simp only [NodeTest.accepts, KindTest.accepts, kind, name, hm.ask_handle hi]
      exact ⟨_, rfl⟩
    | name test =>
      simp only [NodeTest.accepts, kind, name, hm.ask_handle hi]
      exact ⟨_, rfl⟩
  obtain ⟨b, hb⟩ := haccepts
  rw [NodeTest.passes, hb]
  rfl

end Model.Numbered

theorem filterM_map_eq_ok {α β ε : Type} {test : α → Except ε Bool} {passes : β → Bool}
    {g : β → α} {bs : List β} (h : ∀ b ∈ bs, test (g b) = .ok (passes b)) :
    (bs.map g).filterM test = .ok ((bs.filter passes).map g) := by
  have haux : ∀ done, List.filterAuxM test (bs.map g) done =
      .ok (((bs.filter passes).map g).reverse ++ done) := by
    induction bs with
    | nil => exact fun _ => rfl
    | cons b bs ih =>
      intro done
      rw [List.map_cons, List.filterAuxM, h b List.mem_cons_self]
      show List.filterAuxM test (bs.map g) _ = _
      rw [ih fun c hc => h c (List.mem_cons_of_mem _ hc)]
      cases hpasses : passes b <;> simp [hpasses]
  show (List.filterAuxM test (bs.map g) [] >>= fun as => pure as.reverse) = _
  rw [haux]
  simp [bind, Except.bind, pure, Except.pure]

/-- The nodes of an axis that pass a test, by number. -/
def Axis.selected (axis : Axis) (test : NodeTest) (m : Model) (i : Nat) : List Nat :=
  (axis.numbers m.tree i).filter (test.passes axis.principalKind m)

theorem Model.Numbered.lt_size_of_mem_selected {m : Model} (hm : m.Numbered) {i j : Nat}
    (hi : i < m.size) {axis : Axis} {test : NodeTest} (hj : j ∈ axis.selected test m i) : j < m.size :=
  hm.wellFormed.lt_size_of_mem_numbers hi (List.mem_filter.1 hj).1

theorem Model.Numbered.candidates_handle {m : Model} (hm : m.Numbered) {i : Nat} (hi : i < m.size)
    (axis : Axis) (test : NodeTest) :
    Eval.candidates axis test m (m.handle i) = .ok (m.handles (axis.selected test m i)) := by
  rw [Eval.candidates, hm.nodes_handle hi]
  exact filterM_map_eq_ok fun j hj =>
    hm.accepts_handle (hm.wellFormed.lt_size_of_mem_numbers hi hj) test axis.principalKind

/-- The nodes of an axis that pass a test, in document order. -/
structure Axis.Finds (axis : Axis) (test : NodeTest) (m : Model) (n : NodeHandle)
    (found : List NodeHandle) : Prop where
  mem_iff : ∀ y, y ∈ found ↔ axis.Leads m n y ∧ test.accepts axis.principalKind m y = .ok true
  sorted : found.Pairwise (·.precedes ·)

theorem Model.Numbered.finds_selected {m : Model} (hm : m.Numbered) {i : Nat} (hi : i < m.size)
    (axis : Axis) (test : NodeTest) :
    axis.Finds test m (m.handle i) (m.handles (m.inOrder (axis.selected test m i))) := by
  refine ⟨fun y => ?_, hm.sorted_inOrder _⟩
  rw [mem_handles_inOrder fun _ => hm.lt_size_of_mem_selected hi, handles, List.mem_map]
  constructor
  · rintro ⟨j, hj, rfl⟩
    have hlt := hm.lt_size_of_mem_selected hi hj
    obtain ⟨hnumbers, hpasses⟩ := List.mem_filter.1 hj
    rw [hm.leads_handle_iff hi hlt, hm.accepts_handle hlt, hpasses]
    exact ⟨hnumbers, rfl⟩
  · rintro ⟨⟨l, hl, hy⟩, haccepts⟩
    obtain rfl : m.handles (axis.numbers m.tree i) = l := by simpa [hm.nodes_handle hi] using hl
    obtain ⟨j, hj, rfl⟩ := List.mem_map.1 hy
    rw [hm.accepts_handle (hm.wellFormed.lt_size_of_mem_numbers hi hj)] at haccepts
    exact ⟨j, List.mem_filter.2 ⟨hj, Except.ok.inj haccepts⟩, rfl⟩

/-! ## Steps -/

/-- A context with a node of a model in focus that the manager knows. -/
structure Context.At (c : Context) (f : Forest) (m : Model) (i : Nat) : Prop where
  focus : ∃ position size, c.focus.head? = some ⟨.node (m.handle i), position, size⟩
  owner : ∀ j < m.size, (c.caller f).ownerOf (m.handle j) = .ok m
  lt_size : i < m.size

namespace Context.At

variable {c : Context} {f : Forest} {m : Model} {i j position size : Nat} {is : List Nat}
  {g : Nat → List Nat} {x : Eval Value}

theorem push (h : c.At f m i) (hj : j < m.size) (position size : Nat) :
    (c.push ⟨.node (m.handle j), position, size⟩).At f m j :=
  ⟨⟨position, size, rfl⟩, h.owner, hj⟩

theorem contextNode_eq (h : c.At f m i) (why : String) :
    Eval.contextNode why f c = (.ok (m.handle i), c) := by
  obtain ⟨position, size, hfocus⟩ := h.focus
  have hnode : Eval.ask (·.currentNode) f c = (.ok (some (m.handle i)), c) := by
    simp only [Eval.ask, caller, Caller.currentNode, Caller.focus?, hfocus]
    rfl
  exact Eval.bind_of_ok _ hnode

/-- A step without predicates leads to the nodes of its axis that pass its test. -/
theorem evaluate_step (hm : m.Numbered) (h : c.At f m i) (axis : Axis) (test : NodeTest) :
    (Expr.step axis test []).evaluate f c =
      (.ok (.ofNodes (m.handles (m.inOrder (axis.selected test m i)))), c) := by
  have hlt : ∀ j ∈ axis.selected test m i, j < m.size := fun j => hm.lt_size_of_mem_selected h.lt_size
  have hnodup : (axis.selected test m i).Nodup :=
    (hm.wellFormed.nodup_numbers h.lt_size axis).filter _
  show Eval.step axis test [] f c = _
  rw [Eval.step, Eval.bind_of_ok _ (h.contextNode_eq _)]
  have howner : Eval.ask (·.ownerOf (m.handle i)) f c = (.ok m, c) :=
    congrArg (·, c) (h.owner i h.lt_size)
  rw [Eval.bind_of_ok _ howner, hm.candidates_handle h.lt_size]
  show (Except.ok (Value.collect ((NodeHandle.sort (List.filterMap _ _)).map .node)), c) = _
  rw [Eval.filterMap_asNode?_nodes, hm.sort_handles hlt hnodup]
  rfl

/-- A step with one node after the other in focus. -/
theorem stepFrom_eq (hm : m.Numbered) (h : c.At f m i) (axis : Axis) (test : NodeTest)
    (position : Nat) (his : ∀ j ∈ is, j < m.size) :
    Eval.stepFrom (Expr.step axis test []).evaluate size position (m.handles is) f c =
      (.ok ((m.handles (is.flatMap fun j => m.inOrder (axis.selected test m j))).map .node), c) := by
  induction is generalizing position with
  | nil => rfl
  | cons j is ih =>
    have hj := his j List.mem_cons_self
    have hothers := ih (position + 1) fun k hk => his k (List.mem_cons_of_mem _ hk)
    have hfocused : Eval.focused ⟨.node (m.handle j), position, size⟩
        (Expr.step axis test []).evaluate f c =
          (.ok (.ofNodes (m.handles (m.inOrder (axis.selected test m j)))), c) := by
      rw [(Expr.neutral_evaluate _).focused_eq, evaluate_step hm (h.push hj position size)]
    have hitems : Eval.ask (·.flatten (.ofNodes (m.handles (m.inOrder (axis.selected test m j))))) f c =
        (.ok ((m.handles (m.inOrder (axis.selected test m j))).map .node), c) :=
      congrArg (·, c) (Value.flatten_ofNodes f _)
    rw [Model.handles, List.map_cons, ← Model.handles, Eval.stepFrom, Eval.bind_of_ok _ hfocused,
      Eval.bind_of_ok _ hitems, Eval.bind_of_ok _ hothers, List.flatMap_cons]
    simp only [Model.handles, List.map_append]
    rfl

/-- A step in a path leads to all nodes to which it leads from those before it. -/
theorem steps_cons (hm : m.Numbered) (h : c.At f m i) {axis : Axis} {test : NodeTest} {slots : Slots}
    {place : Nat} (hslot : slots[place]? = some (some (Expr.step axis test []).evaluate))
    (rest : List Nat) (his : ∀ j ∈ is, j < m.size) :
    Eval.steps slots (place :: rest) ((m.handles is).map .node) f c =
      Eval.steps slots rest
        ((m.handles (m.inOrder (is.flatMap (axis.selected test m)))).map .node) f c := by
  have hfound : ∀ k ∈ is.flatMap fun j => m.inOrder (axis.selected test m j), k < m.size := by
    intro k hk
    obtain ⟨j, -, hk⟩ := List.mem_flatMap.1 hk
    exact (Model.mem_inOrder.1 hk).1
  have hsame : m.inOrder (is.flatMap fun j => m.inOrder (axis.selected test m j)) =
      m.inOrder (is.flatMap (axis.selected test m)) := by
    refine Model.inOrder_congr fun k hk => ?_
    simp only [List.mem_flatMap, Model.mem_inOrder, hk, true_and]
  have hstep : Eval.ofExcept (Eval.slot slots place "path step") f c =
      (.ok (Expr.step axis test []).evaluate, c) := by
    simp only [Eval.ofExcept, Eval.slot, hslot]
  have hnodes : Eval.ofExcept (Eval.asNodes ((m.handles is).map .node)) f c =
      (.ok (m.handles is), c) := congrArg (·, c) (Eval.asNodes_nodes _)
  have hordered : Eval.ofExcept (Eval.inDocumentOrder
      ((m.handles (is.flatMap fun j => m.inOrder (axis.selected test m j))).map .node)) f c =
        (.ok ((m.handles (m.inOrder (is.flatMap (axis.selected test m)))).map .node), c) := by
    rw [Eval.inDocumentOrder_nodes, hm.sortDistinct_handles hfound, hsame]
    rfl
  rw [Eval.steps, Eval.bind_of_ok _ hstep, Eval.bind_of_ok _ hnodes,
    Eval.bind_of_ok _ (stepFrom_eq hm h axis test 1 his), Eval.bind_of_ok _ hordered]

end Context.At

end Grove

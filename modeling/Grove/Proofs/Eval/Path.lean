/-
Paths. A path of steps leads where a walk along their axes leads (`Context.At.evaluate_path`). So
two ways through the tree that lead to the same nodes give the same list of them: the nodes after
and before a node are those that a way up, to the siblings there and down again leads to
(`Expr.around_eq_roundabout`).
-/
import Grove.Proofs.Eval.Step

namespace Grove

/-! ## Paths -/

/-- A step without predicates. -/
def Expr.plainStep (s : Axis × NodeTest) : Expr := step s.1 s.2 []

/-- The nodes that steps lead to from some nodes, by number. -/
def Model.walk (m : Model) : List (Axis × NodeTest) → List Nat → List Nat
  | [], is => is
  | (axis, test) :: rest, is => m.walk rest (m.inOrder (is.flatMap (axis.selected test m)))

namespace Context.At

variable {c : Context} {f : Forest} {m : Model} {i : Nat} {is : List Nat}

/-- The steps of a path from a place on lead where a walk leads. -/
theorem steps_eq_walk (hm : m.Numbered) (h : c.At f m i) (done : Slots)
    (rest : List (Axis × NodeTest)) (his : ∀ j ∈ is, j < m.size) :
    Eval.steps (done ++ Expr.evaluateSlots (Expr.filled (rest.map Expr.plainStep)))
        (List.range' done.length rest.length) ((m.handles is).map .node) f c =
      (.ok ((m.handles (m.walk rest is)).map .node), c) := by
  induction rest generalizing done is with
  | nil => rfl
  | cons s rest ih =>
    obtain ⟨axis, test⟩ := s
    have hslots : done ++ Expr.evaluateSlots (Expr.filled (((axis, test) :: rest).map Expr.plainStep)) =
        (done ++ [some (Expr.step axis test []).evaluate]) ++
          Expr.evaluateSlots (Expr.filled (rest.map Expr.plainStep)) := by
      rw [List.append_assoc]
      rfl
    have hslot : ((done ++ [some (Expr.step axis test []).evaluate]) ++
        Expr.evaluateSlots (Expr.filled (rest.map Expr.plainStep)))[done.length]? =
          some (some (Expr.step axis test []).evaluate) := by
      simp
    rw [List.length_cons, List.range'_succ, hslots, steps_cons hm h hslot _ his, Model.walk]
    have hlt : ∀ j ∈ m.inOrder (is.flatMap (axis.selected test m)), j < m.size :=
      fun j hj => (Model.mem_inOrder.1 hj).1
    have hrest := ih (done ++ [some (Expr.step axis test []).evaluate]) hlt
    rwa [List.length_append, List.length_singleton] at hrest

/-- A path of steps without predicates leads where a walk along them leads. -/
theorem evaluate_path (hm : m.Numbered) (h : c.At f m i) (axis : Axis) (test : NodeTest)
    (rest : List (Axis × NodeTest)) :
    (Expr.path .relative (((axis, test) :: rest).map Expr.plainStep)).evaluate f c =
      (.ok (.ofNodes (m.handles (m.walk ((axis, test) :: rest) [i]))), c) := by
  have hlength : (Expr.evaluateSlots (Expr.filled (rest.map Expr.plainStep))).length = rest.length := by
    simp [Expr.length_evaluateSlots, Expr.filled]
  have hfirst : Eval.items (Expr.step axis test []).evaluate f c =
      (.ok ((m.handles (m.inOrder (axis.selected test m i))).map .node), c) := by
    rw [Eval.items_of_ok (evaluate_step hm h axis test), Value.flatten_ofNodes]
  have hlt : ∀ j ∈ m.inOrder (axis.selected test m i), j < m.size :=
    fun j hj => (Model.mem_inOrder.1 hj).1
  have hothers := steps_eq_walk hm h [some (Expr.step axis test []).evaluate] rest hlt
  show Eval.path .relative (some (Expr.step axis test []).evaluate ::
    Expr.evaluateSlots (Expr.filled (rest.map Expr.plainStep))) f c = _
  simp only [Eval.path, List.length_cons, hlength, List.range_eq_range', List.range'_succ]
  rw [Eval.bind_of_ok _ rfl, Eval.bind_of_ok _ hfirst]
  refine (Eval.bind_of_ok _ hothers).trans ?_
  rw [Model.walk, List.flatMap_singleton]
  rfl

theorem origin_eq (hm : m.Numbered) (h : c.At f m i) (whole : Bool) :
    Eval.origin whole f c =
      (.ok ((m.handles (if whole then m.tree.subtree 0 else [0])).map .node), c) := by
  have hroot : 0 < m.size := hm.wellFormed.within_zero.lt_size
  have howner : Eval.ask (·.ownerOf (m.handle i)) f c = (.ok m, c) := congrArg (·, c) (h.owner i h.lt_size)
  rw [Eval.origin, Eval.bind_of_ok _ (h.contextNode_eq _), Eval.bind_of_ok _ howner]
  cases whole with
  | false => rfl
  | true =>
    rw [if_pos rfl, Model.descendants, Model.document, hm.ask_handle hroot]
    rfl

/-- From the root, or from all nodes, a path of steps without predicates leads where a walk along
them leads. -/
theorem evaluate_rooted_path (hm : m.Numbered) (h : c.At f m i) (whole : Bool)
    (rest : List (Axis × NodeTest)) :
    (Expr.path (if whole then .rootDescendants else .root) (rest.map Expr.plainStep)).evaluate f c =
      (.ok (.ofNodes (m.handles (m.walk rest (if whole then m.tree.subtree 0 else [0])))), c) := by
  have hlength : (Expr.evaluateSlots (Expr.filled (rest.map Expr.plainStep))).length = rest.length := by
    simp [Expr.length_evaluateSlots, Expr.filled]
  have hlt : ∀ j ∈ if whole then m.tree.subtree 0 else [0], j < m.size := by
    have hroot : 0 < m.size := hm.wellFormed.within_zero.lt_size
    cases whole with
    | false => simpa using hroot
    | true => exact fun j hj => hm.wellFormed.lt_size_of_mem_subtree hroot hj
  have hsteps := steps_eq_walk hm h [] rest hlt
  rw [List.nil_append, List.length_nil, ← List.range_eq_range', ← hlength] at hsteps
  have hstart := origin_eq hm h whole
  cases whole <;> exact (Eval.bind_of_ok _ hstart).trans (Eval.bind_of_ok _ hsteps)

end Context.At

/-! ## Around a node -/

namespace Tree.WellFormed

variable {t : Tree} {i a x : Nat}

theorem within_of_mem (h : t.WellFormed) (hi : t.Within i) (ha : a ∈ i :: t.ancestors i) :
    t.Within a := by
  rcases List.mem_cons.1 ha with rfl | ha
  · exact hi
  · exact h.within_of_mem_ancestors ha

theorem mem_following_iff (h : t.WellFormed) (hi : t.Within i) : x ∈ Axis.following.numbers t i ↔
    ∃ a ∈ i :: t.ancestors i, ∃ s ∈ Axis.followingSibling.numbers t a, x ∈ t.subtree s := by
  refine (h.mem_after_iff_younger hi).trans (exists_congr fun a => and_congr_right fun ha => ?_)
  have hsiblings := fun s => h.mem_later_siblings_iff (s := s) (h.within_of_mem hi ha)
  exact exists_congr fun s => and_congr_left' (hsiblings s).symm

theorem mem_preceding_iff (h : t.WellFormed) (hi : t.Within i) : x ∈ Axis.preceding.numbers t i ↔
    ∃ a ∈ i :: t.ancestors i, ∃ s ∈ Axis.precedingSibling.numbers t a, x ∈ t.subtree s := by
  refine (h.mem_before_iff_younger hi).trans (exists_congr fun a => and_congr_right fun ha => ?_)
  have hsiblings := fun s => h.mem_earlier_siblings_iff (a := s) (h.within_of_mem hi ha)
  exact exists_congr fun s => and_congr_left' (hsiblings s).symm

end Tree.WellFormed

namespace Model

variable {m : Model} {i x : Nat} {siblings axis : Axis} {test : NodeTest}

/-- A walk ends in document order. -/
theorem inOrder_walk (m : Model) (s : Axis × NodeTest) (rest : List (Axis × NodeTest)) (is : List Nat) :
    m.inOrder (m.walk (s :: rest) is) = m.walk (s :: rest) is := by
  induction rest generalizing s is with
  | nil =>
    refine inOrder_congr fun j hj => ?_
    rw [walk, walk, mem_inOrder, and_iff_right hj]
  | cons s' rest ih => exact ih s' _

/-- The way to a node and those above it, to siblings of them, and to what is below these. -/
def roundabout (siblings : Axis) (test : NodeTest) : List (Axis × NodeTest) :=
  [(.ancestorOrSelf, .kind .anyNode), (siblings, .kind .anyNode), (.descendantOrSelf, test)]

namespace Numbered

theorem mem_selected_anyNode (hm : m.Numbered) (hi : i < m.size) (axis : Axis) :
    x ∈ axis.selected (.kind .anyNode) m i ↔ x ∈ axis.numbers m.tree i := by
  rw [Axis.selected, List.mem_filter, and_iff_left_iff_imp]
  intro hx
  have hlt := hm.wellFormed.lt_size_of_mem_numbers hi hx
  simp only [NodeTest.passes, NodeTest.accepts, KindTest.accepts, kind, name, hm.ask_handle hlt]
  rfl

theorem mem_walk_roundabout (hm : m.Numbered) (hi : i < m.size) :
    x ∈ m.walk (roundabout siblings test) [i] ↔
      (∃ a ∈ i :: m.tree.ancestors i, ∃ s ∈ siblings.numbers m.tree a, x ∈ m.tree.subtree s) ∧
        test.passes .element m x = true := by
  have hlt : ∀ {i}, i < m.size → ∀ axis : Axis, ∀ {j}, j ∈ axis.numbers m.tree i → j < m.size :=
    fun hi _ _ => hm.wellFormed.lt_size_of_mem_numbers hi
  simp only [roundabout, walk, mem_inOrder, List.flatMap_singleton, List.mem_flatMap]
  constructor
  · rintro ⟨-, s, ⟨hs, a, ⟨ha, hia⟩, has⟩, hx⟩
    obtain ⟨hx, hpasses⟩ := List.mem_filter.1 hx
    have hia := (hm.mem_selected_anyNode hi _).1 hia
    exact ⟨⟨a, hia, s, (hm.mem_selected_anyNode ha _).1 has, hx⟩, hpasses⟩
  · rintro ⟨⟨a, hia, s, has, hx⟩, hpasses⟩
    have ha := hlt hi .ancestorOrSelf hia
    have hs := hlt ha siblings has
    refine ⟨hlt hs .descendantOrSelf hx, s, ⟨hs, a, ⟨ha, ?_⟩, ?_⟩, List.mem_filter.2 ⟨hx, hpasses⟩⟩
    · exact (hm.mem_selected_anyNode hi _).2 hia
    · exact (hm.mem_selected_anyNode ha _).2 has

/-- An axis leads where the roundabout way does if it leads to all that is below the siblings. -/
theorem inOrder_eq_walk_roundabout (hm : m.Numbered) (hi : i < m.size)
    (hprincipal : axis.principalKind = .element)
    (haxis : ∀ x, x ∈ axis.numbers m.tree i ↔
      ∃ a ∈ i :: m.tree.ancestors i, ∃ s ∈ siblings.numbers m.tree a, x ∈ m.tree.subtree s) :
    m.inOrder (axis.selected test m i) = m.walk (roundabout siblings test) [i] := by
  have hway : m.inOrder (m.walk (roundabout siblings test) [i]) = m.walk (roundabout siblings test) [i] :=
    inOrder_walk ..
  rw [← hway]
  refine inOrder_congr fun x _ => ?_
  rw [hm.mem_walk_roundabout hi, ← haxis, Axis.selected, List.mem_filter, hprincipal]

end Numbered

end Model

/-- A manager that knows one node of a model knows all of them. -/
theorem Forest.ownerOf_handle {f : Forest} {r : ManagerRef} {m : Model} {i j : Nat} (hm : m.Numbered)
    (howner : f.ownerOf r (m.handle i) = .ok m) (hj : j < m.size) : f.ownerOf r (m.handle j) = .ok m := by
  obtain ⟨ref, hown, hmodel⟩ := map_eq_ok_iff.1 howner
  have hsame : (m.handle j).model = (m.handle i).model := by simp [Model.handle]
  unfold ownerRef at hown
  split at hown
  next held hholder =>
    split at hown
    next =>
      obtain rfl := Except.ok.inj hown
      unfold ownerOf ownerRef
      rw [hsame, hholder]
      dsimp only
      rw [hmodel, if_pos (hm.contains_handle hj), ← hmodel]
      rfl
    next => simp at hown
  next => simp at hown

theorem Context.at_of_ownerOf {c : Context} {f : Forest} {r : ManagerRef} {m : Model}
    {i position size : Nat} (hm : m.Numbered) (hmanager : c.manager = some r)
    (hfocus : c.focus.head? = some ⟨.node (m.handle i), position, size⟩)
    (howner : f.ownerOf r (m.handle i) = .ok m) (hi : i < m.size) : c.At f m i := by
  refine ⟨⟨position, size, hfocus⟩, fun j hj => ?_, hi⟩
  rw [Caller.ownerOf, caller, Caller.manager?, hmanager]
  show (f.ownerOf r (m.handle j)).mapError Error.ofTree = _
  rw [Forest.ownerOf_handle hm howner hj]
  rfl

/-- The path from a node to it and those above it, to siblings of them, and to what is below
these. -/
def Expr.roundabout (siblings : Axis) (test : NodeTest) : Expr :=
  path .relative [step .ancestorOrSelf (.kind .anyNode) [], step siblings (.kind .anyNode) [],
    step .descendantOrSelf test []]

theorem Context.At.evaluateAll_roundabout {c : Context} {f : Forest} {m : Model} {i : Nat}
    {axis siblings : Axis} (hm : m.Numbered) (h : c.At f m i) (hprincipal : axis.principalKind = .element)
    (haxis : ∀ x, x ∈ axis.numbers m.tree i ↔
      ∃ a ∈ i :: m.tree.ancestors i, ∃ s ∈ siblings.numbers m.tree a, x ∈ m.tree.subtree s)
    (test : NodeTest) : ∃ found : List NodeHandle, axis.Finds test m (m.handle i) found ∧
      (Expr.step axis test []).evaluateAll f c = (.ok (found.map .node), c) ∧
      (Expr.roundabout siblings test).evaluateAll f c = (.ok (found.map .node), c) := by
  refine ⟨_, hm.finds_selected h.lt_size axis test,
    Expr.evaluateAll_of_nodes (evaluate_step hm h axis test), Expr.evaluateAll_of_nodes ?_⟩
  rw [hm.inOrder_eq_walk_roundabout h.lt_size hprincipal haxis]
  exact evaluate_path hm h .ancestorOrSelf (.kind .anyNode)
    [(siblings, .kind .anyNode), (.descendantOrSelf, test)]

/-- The nodes after a node are those on and below the later siblings of it and of the nodes
above it, and the nodes before it those on and below the earlier ones. -/
theorem Expr.around_eq_roundabout {c : Context} {f : Forest} {r : ManagerRef} {m : Model}
    {n : NodeHandle} {position size : Nat} (hm : m.Reachable) (hmanager : c.manager = some r)
    (hfocus : c.focus.head? = some ⟨.node n, position, size⟩) (howner : f.ownerOf r n = .ok m)
    (hn : m.IsTreeNode n) (test : NodeTest) :
    ∃ after before : List NodeHandle,
      Axis.following.Finds test m n after ∧ Axis.preceding.Finds test m n before ∧
      (step .following test []).evaluateAll f c = (.ok (after.map .node), c) ∧
      (roundabout .followingSibling test).evaluateAll f c = (.ok (after.map .node), c) ∧
      (step .preceding test []).evaluateAll f c = (.ok (before.map .node), c) ∧
      (roundabout .precedingSibling test).evaluateAll f c = (.ok (before.map .node), c) := by
  obtain ⟨i, hi, rfl⟩ := (Model.isTreeNode_iff hm.numbered).1 hn
  have hat := Context.at_of_ownerOf hm.numbered hmanager hfocus howner hi.lt_size
  obtain ⟨after, hfinds, hafter, hafter'⟩ := hat.evaluateAll_roundabout hm.numbered rfl
    (fun _ => hm.wellFormed.mem_following_iff hi) test
  obtain ⟨before, hfinds', hbefore, hbefore'⟩ := hat.evaluateAll_roundabout hm.numbered rfl
    (fun _ => hm.wellFormed.mem_preceding_iff hi) test
  exact ⟨after, before, hfinds, hfinds', hafter, hafter', hbefore, hbefore'⟩

/-- A manager with a fragment that has taken the uneven batch. -/
def Forest.uneven : Forest :=
  let (r, f) := addManager {} Manager.standard
  match f.createFragment r with
  | (.ok ref, f) => (f.append ref Model.unevenBatch).2
  | (.error _, f) => f

/-- Around the text inside the element of the uneven batch there is one text on each side. -/
theorem Expr.around_eq_roundabout_uneven :
    ∃ (m : Model) (c : Context), m.Reachable ∧ c.manager = some ⟨0⟩ ∧
      c.focus.head? = some ⟨.node (m.handle 5), 1, 1⟩ ∧
      Forest.uneven.ownerOf ⟨0⟩ (m.handle 5) = .ok m ∧ m.IsTreeNode (m.handle 5) ∧
      Axis.following.Finds (.kind .text) m (m.handle 5) [m.handle 7] ∧
      Axis.preceding.Finds (.kind .text) m (m.handle 5) [m.handle 1] ∧
      (step .following (.kind .text) []).evaluateAll Forest.uneven c = (.ok [.node (m.handle 7)], c) ∧
      (roundabout .followingSibling (.kind .text)).evaluateAll Forest.uneven c =
        (.ok [.node (m.handle 7)], c) ∧
      (step .preceding (.kind .text) []).evaluateAll Forest.uneven c = (.ok [.node (m.handle 1)], c) ∧
      (roundabout .precedingSibling (.kind .text)).evaluateAll Forest.uneven c =
        (.ok [.node (m.handle 1)], c) := by
  have h : ((Model.emptyFragment ⟨0⟩).append Model.unevenBatch).2.Reachable := .append _ (.fragment _)
  generalize hm : ((Model.emptyFragment ⟨0⟩).append Model.unevenBatch).2 = m at h
  let c : Context := { manager := some ⟨0⟩, focus := [⟨.node (m.handle 5), 1, 1⟩] }
  have howner : Forest.uneven.ownerOf ⟨0⟩ (m.handle 5) = .ok m := by rw [← hm]; rfl
  have hn : m.IsTreeNode (m.handle 5) := ⟨.text, by rw [← hm]; rfl, by decide, by decide⟩
  obtain ⟨after, before, hfinds, hfinds', hafter, hway, hbefore, hway'⟩ :=
    around_eq_roundabout (c := c) h rfl rfl howner hn (.kind .text)
  have hat : c.At Forest.uneven m 5 :=
    Context.at_of_ownerOf h.numbered rfl rfl howner (by rw [← hm]; decide)
  have hfollowing : m.inOrder (Axis.following.selected (.kind .text) m 5) = [7] := by
    rw [← hm]
    decide +kernel
  have hpreceding : m.inOrder (Axis.preceding.selected (.kind .text) m 5) = [1] := by
    rw [← hm]
    decide +kernel
  have honly : ∀ {xs ys : List NodeHandle}, (Except.ok (xs.map Value.node), c) =
      ((.ok (ys.map .node), c) : Except Error (List Value) × Context) → xs = ys := by
    intro xs ys heq
    have hmaps : xs.map Value.node = ys.map .node := Except.ok.inj (congrArg Prod.fst heq)
    exact List.map_injective_iff.2 (fun _ _ => Value.node.inj) hmaps
  obtain rfl : after = [m.handle 7] := honly (hafter.symm.trans (by
    rw [evaluateAll_of_nodes (hat.evaluate_step h.numbered .following _), hfollowing]
    rfl))
  obtain rfl : before = [m.handle 1] := honly (hbefore.symm.trans (by
    rw [evaluateAll_of_nodes (hat.evaluate_step h.numbered .preceding _), hpreceding]
    rfl))
  exact ⟨m, c, h, rfl, rfl, howner, hn, hfinds, hfinds', hafter, hway, hbefore, hway'⟩

end Grove

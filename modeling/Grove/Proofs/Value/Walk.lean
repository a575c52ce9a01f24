/-
Walks over nodes. A walk keeps the nodes that it has still to visit in a stack: it takes the first,
puts the children of the node in its place, and goes on if the node is not shown
(`NodeWalk.advance_cons`). What it shows are the nodes below its root, and the root, that are of
the right kind and pass its filter, as the model lists them; each move of its cursor comes to the
next of them, and a cursor that is taken back, or a new one, comes to all again
(`Model.Reachable.walk_shows_descendants`).

What carries the runs is how much of that list is left for a cursor (`Cursor.Walking`). It is read
off the nodes in the stack, and says nothing of the forest but that the model is still the same.
-/
import Mathlib.Data.List.Perm.Subperm
import Grove.Value.Drain
import Grove.Proofs.Tree.Axes
import Grove.Proofs.Value.Replay

namespace Grove

/-! ## The stack of a walk -/

section Stack

variable {α ε : Type} {number : α → Nat} {look : α → Except ε (Option Nat) × List Nat}

theorem firstFound_map (number : α → Nat) (look : Nat → Except ε (Option Nat) × List Nat)
    (as : List α) : firstFound number (fun a => look (number a)) as = firstFound id look (as.map number) := by
  induction as with
  | nil => rfl
  | cons a as ih =>
    rw [List.map_cons, firstFound, firstFound, List.map_id, ih]

/-- What is found among the first is found, and the others are left behind it. -/
theorem firstFound_append (as bs : List α) :
    firstFound number look (as ++ bs) =
      match firstFound number look as with
      | (.ok none, _) => firstFound number look bs
      | (found, left) => (found, left ++ bs.map number) := by
  induction as with
  | nil => rfl
  | cons a as ih =>
    rw [List.cons_append, firstFound, firstFound]
    rcases look a with ⟨_ | _ | _, left⟩
    · simp
    · exact ih
    · simp

end Stack

/-- The first node of the stack is visited, and its children take its place. -/
theorem NodeWalk.advance_cons (w : NodeWalk) (f : Forest) (i : Nat) (left : List Nat) :
    w.advance f (i :: left) =
      let m := f.model w.model
      let left' := m.tree.laterChildren i ++ left
      match w.accepts m (m.handle i) with
      | .error e => (.error e, left')
      | .ok true => (.ok (some (m.handle i)), left')
      | .ok false => w.advance f left' := by
  simp only [advance, firstFound, List.map_id]
  rw [Tree.firstAccepted, firstFound_append]
  cases w.accepts (f.model w.model) ((f.model w.model).handle i) with
  | error e => rfl
  | ok shown =>
    cases shown with
    | true => rfl
    | false =>
      dsimp only
      rw [firstFound_map Subtype.val, List.attach_map_subtype_val]
      generalize firstFound id _ ((f.model w.model).tree.laterChildren i) = looked
      rcases looked with ⟨_ | _ | _, _⟩ <;> simp

/-! ## The nodes that are shown -/

namespace NodeWalk

/-- Whether a walk shows a node: its kind is one of those shown, and the filter takes the node. -/
def admits (w : NodeWalk) (m : Model) (h : NodeHandle) : Bool :=
  (m.kind h).toOption.any w.mask.shows && w.filter.all fun filter => (filter m h).toOption.any id

/-- The filter of a walk, if it has one, does not fail at any node of a model. -/
def NeverFails (w : NodeWalk) (m : Model) : Prop :=
  ∀ filter, w.filter = some filter → ∀ h, m.contains h = true → ∃ taken, filter m h = .ok taken

variable {w : NodeWalk} {m : Model} {f g : Forest} {i : Nat} {is : List Nat}

theorem NeverFails.accepts_eq (hfilter : w.NeverFails m) (hm : m.Numbered) (hi : i < m.size) :
    w.accepts m (m.handle i) = .ok (w.admits m (m.handle i)) := by
  have hkind : m.kind (m.handle i) = .ok (((m.tree.node? i).map (·.kind)).getD .document) :=
    hm.ask_handle hi _
  rw [accepts, admits, hkind]
  generalize ((m.tree.node? i).map (·.kind)).getD .document = kind
  show (if w.mask.shows kind then _ else _) = _
  cases hshown : w.mask.shows kind with
  | false => simp [Except.toOption, hshown]
  | true =>
    cases hw : w.filter with
    | none => simp [Except.toOption, hshown]
    | some filter =>
      obtain ⟨taken, htaken⟩ := hfilter filter hw _ (hm.contains_handle hi)
      simp [Except.toOption, hshown, htaken]

theorem NeverFails.outcomesAmong_eq (hfilter : w.NeverFails m) (hm : m.Numbered)
    (his : ∀ i ∈ is, i < m.size) :
    w.outcomesAmong m is = (((m.handles is).filter (w.admits m)).map Value.node).map .ok := by
  induction is with
  | nil => rfl
  | cons i is ih =>
    obtain ⟨hi, his⟩ := List.forall_mem_cons.1 his
    have ih := ih his
    rw [outcomesAmong] at ih ⊢
    rw [List.filterMap_cons, accepted?, hfilter.accepts_eq hm hi, Model.handles, List.map_cons,
      List.filter_cons, ← Model.handles]
    cases w.admits m (m.handle i) with
    | false => exact ih
    | true => exact congrArg (Except.ok (Value.node (m.handle i)) :: ·) ih

/-- What a walk shows is what its model lists below the root of it, as far as the walk admits it. -/
theorem NeverFails.outcomes_eq (hfilter : w.NeverFails m) (hm : m.Numbered)
    (hroot : m.contains w.root = true) :
    ∃ all, m.descendants w.root true = .ok all ∧ all.length ≤ m.size ∧
      ∀ f, f.model w.model = m → w.outcomes f = ((all.filter (w.admits m)).map Value.node).map .ok := by
  obtain ⟨i, hi, hroot⟩ := Model.exists_handle_of_contains hroot
  have hlt : ∀ j ∈ m.tree.subtree i, j < m.size := fun j => hm.wellFormed.lt_size_of_mem_subtree hi
  have hnodup : (m.tree.subtree i).Nodup := (hm.wellFormed.sorted_subtree hi).imp Nat.ne_of_lt
  refine ⟨m.handles (m.tree.subtree i), ?_, ?_, fun f hf => ?_⟩
  · rw [hroot]
    exact hm.ask_handle hi _
  · rw [Model.handles, List.length_map, ← List.length_range (n := m.size)]
    exact (hnodup.subperm fun j hj => List.mem_range.2 (hlt j hj)).length_le
  · rw [outcomes, hf, hroot, hm.locate_handle hi]
    exact hfilter.outcomesAmong_eq hm hlt

theorem remaining_congr (h : g.model w.model = f.model w.model) (left : List Nat) (started : Bool) :
    w.remaining g left started = w.remaining f left started := by
  unfold remaining outcomes
  rw [h]

end NodeWalk

/-! ## Cursors over nodes -/

namespace Cursor

variable {w : NodeWalk} {m : Model} {f g : Forest} {rs : List Outcome} {xs : List Value} {c : Cursor}

theorem next_nodes (f : Forest) (w : NodeWalk) (left : List Nat) (started : Bool) :
    (nodes w left started).next f =
      ((if started then w.advance f left else w.enter f).1.map (·.map Value.node),
        .nodes w (if started then w.advance f left else w.enter f).2 true) := by
  simp only [next, seek, nextNode]
  generalize (if started then w.advance f left else w.enter f) = moved
  rcases moved with ⟨_ | _ | _, _⟩ <;> rfl

/-- The cursor of a walk, with what is left of it where its model is the given one. -/
inductive Walking (w : NodeWalk) (m : Model) (rs : List Outcome) : Cursor → Prop
  | over {f : Forest} {left : List Nat} {started : Bool} : f.model w.model = m →
      w.remaining f left started = rs → Walking w m rs (.nodes w left started)

theorem Walking.next (h : Walking w m rs c) (hf : f.model w.model = m) :
    (c.next f).1 = firstOutcome rs ∧ Walking w m rs.tail (c.next f).2 := by
  obtain ⟨hg, rfl⟩ := h
  rw [← NodeWalk.remaining_congr (hf.trans hg.symm), next_nodes]
  obtain ⟨hfound, hrest⟩ := w.moved_eq f _ _
  exact ⟨hfound, .over hf hrest⟩

/-- The cursor after a move in each of some forests. -/
def movedIn (history : List Forest) (c : Cursor) : Cursor := history.foldl (fun c g => (c.next g).2) c

theorem Walking.movedIn (h : Walking w m rs c) {history : List Forest}
    (hhistory : ∀ g ∈ history, g.model w.model = m) :
    Walking w m (rs.drop history.length) (c.movedIn history) := by
  induction history generalizing rs c with
  | nil => exact h
  | cons g history ih =>
    obtain ⟨hg, hhistory⟩ := List.forall_mem_cons.1 hhistory
    have hrest := ih (h.next hg).2 hhistory
    rwa [List.drop_tail] at hrest

theorem movedIn_replicate (f : Forest) (count : Nat) (c : Cursor) :
    c.movedIn (List.replicate count f) = c.askedFor f count := by
  induction count generalizing c with
  | zero => rfl
  | succ count ih => exact ih (c.next f).2

theorem Walking.yields (h : Walking w m (xs.map .ok) c) (hf : f.model w.model = m) : c.Yields f xs := by
  induction xs generalizing c with
  | nil => exact .ended (h.next hf).1
  | cons x xs ih => exact .value (h.next hf).1 (ih (h.next hf).2)

/-! ## Draining -/

theorem Yields.take_eq (h : c.Yields f xs) {count : Nat} (hcount : xs.length < count) :
    c.take f count = { values := xs, stop := .ended, cursor := c.askedFor f (xs.length + 1) } := by
  induction h generalizing count with
  | @ended c hnext =>
    obtain ⟨count, rfl⟩ : ∃ n, count = n + 1 := ⟨count - 1, by omega⟩
    have hmoved : c.next f = (.ok none, (c.next f).2) := Prod.ext hnext rfl
    rw [take, hmoved]
    rfl
  | @value c v xs hnext _ ih =>
    obtain ⟨count, rfl⟩ : ∃ n, count = n + 1 := ⟨count - 1, by omega⟩
    have hmoved : c.next f = (.ok (some v), (c.next f).2) := Prod.ext hnext rfl
    rw [take, hmoved]
    dsimp only
    rw [ih (Nat.lt_of_succ_lt_succ hcount)]
    rfl

/-- A cursor gives all its values if its weight bounds their number. -/
theorem Yields.drain_eq (h : c.Yields f xs) (hweight : xs.length ≤ c.weight f) :
    c.drain f = (.ok xs, c.askedFor f (xs.length + 1)) := by
  rw [drain, h.take_eq (Nat.lt_succ_of_le hweight)]

theorem Walking.size_le_weight (h : Walking w m rs c) (hf : f.model w.model = m) :
    m.size ≤ c.weight f := by
  obtain ⟨-, -⟩ := h
  rw [weight, hf]
  exact Nat.le_mul_of_pos_left _ (Nat.succ_pos _)

theorem Walking.reset (h : Walking w m rs c) (hf : f.model w.model = m) :
    Walking w m (w.outcomes f) c.reset := by
  obtain ⟨-, -⟩ := h
  exact .over hf rfl

theorem Walking.fresh (h : Walking w m rs c) (hf : f.model w.model = m) :
    Walking w m (w.outcomes f) c.fresh := by
  obtain ⟨-, -⟩ := h
  exact .over hf rfl

/-- What is left of a walk is drained, and there is nothing behind it. -/
theorem Walking.drain (h : Walking w m (xs.map .ok) c) (hf : f.model w.model = m)
    (hxs : xs.length ≤ m.size) :
    (c.drain f).1 = .ok xs ∧ Walking w m [] (c.drain f).2 := by
  have hyields := h.yields hf
  have hmodel : ∀ g ∈ List.replicate (xs.length + 1) f, g.model w.model = m := fun g hg =>
    List.eq_of_mem_replicate hg ▸ hf
  have hend := h.movedIn hmodel
  rw [hyields.drain_eq (hxs.trans (h.size_le_weight hf)), ← movedIn_replicate]
  rw [List.drop_eq_nil_of_le (by simp)] at hend
  exact ⟨rfl, hend⟩

end Cursor

/-- A walk over a model that stays the same shows the nodes below its root, with the root, that it
admits. Each move of its cursor comes to the next of them, wherever the cursor is, and then to
none; all that are left can be had at once; and a cursor taken back to the start, or another one,
shows all of them again. -/
theorem Model.Reachable.walk_shows_descendants {w : NodeWalk} {m : Model} (hm : m.Reachable)
    (hroot : m.contains w.root = true) (hfilter : w.NeverFails m) :
    ∃ all, m.descendants w.root true = .ok all ∧
      ∀ (history : List Forest) (f : Forest), (∀ g ∈ f :: history, g.model w.model = m) →
        let shown := (all.filter (w.admits m)).map Value.node
        let c := (Cursor.ofSequence (.nodes w)).movedIn history
        (c.next f).1 = .ok shown[history.length]? ∧
        (c.drain f).1 = .ok (shown.drop history.length) ∧
        (∀ later, (∀ g ∈ later, g.model w.model = m) →
          (((c.drain f).2.movedIn later).next f).1 = .ok none) ∧
        (c.reset.drain f).1 = .ok shown ∧ (c.fresh.drain f).1 = .ok shown := by
  obtain ⟨all, hall, hlength, houtcomes⟩ := hfilter.outcomes_eq hm.numbered hroot
  refine ⟨all, hall, fun history f hmodel => ?_⟩
  obtain ⟨hf, hhistory⟩ := List.forall_mem_cons.1 hmodel
  intro shown c
  have hsize : shown.length ≤ m.size := by
    rw [List.length_map]
    exact (List.length_filter_le ..).trans hlength
  have hstart : Cursor.Walking w m (shown.map .ok) (.ofSequence (.nodes w)) := .over hf (houtcomes f hf)
  have hc : Cursor.Walking w m ((shown.drop history.length).map .ok) c := by
    rw [List.map_drop]
    exact hstart.movedIn hhistory
  have hreset : Cursor.Walking w m (shown.map .ok) c.reset := houtcomes f hf ▸ hc.reset hf
  have hfresh : Cursor.Walking w m (shown.map .ok) c.fresh := houtcomes f hf ▸ hc.fresh hf
  obtain ⟨hdrained, hend⟩ := hc.drain hf ((List.length_drop ▸ Nat.sub_le ..).trans hsize)
  refine ⟨?_, hdrained, fun later hlater => ?_, (hreset.drain hf hsize).1, (hfresh.drain hf hsize).1⟩
  · rw [(hc.next hf).1, firstOutcome_map_ok, List.head?_drop]
  · rw [((hend.movedIn hlater).next hf).1, List.drop_nil]
    rfl

/-- The texts of the uneven batch that are not empty. -/
theorem Model.Reachable.walk_shows_descendants_uneven :
    ∃ (m : Model) (w : NodeWalk) (f : Forest), m.Reachable ∧ m.contains w.root = true ∧
      w.NeverFails m ∧ f.model w.model = m ∧
      ((Cursor.ofSequence (.nodes w)).drain f).1 = .ok ((m.handles [1, 5, 7]).map .node) ∧
      (((Cursor.ofSequence (.nodes w)).next f).2.drain f).1 = .ok ((m.handles [5, 7]).map .node) := by
  have h : Reachable ((emptyFragment ⟨0⟩).append unevenBatch).2 := .append _ (.fragment _)
  have hall : ((emptyFragment ⟨0⟩).append unevenBatch).2.descendants
      (((emptyFragment ⟨0⟩).append unevenBatch).2.handle 0) true =
        .ok (((emptyFragment ⟨0⟩).append unevenBatch).2.handles [0, 1, 2, 5, 6, 7]) := by
    decide +kernel
  generalize hm : ((emptyFragment ⟨0⟩).append unevenBatch).2 = m at h hall
  let planted := (default : Forest).plant m
  let w : NodeWalk :=
    { model := planted.1, root := m.handle 0, mask := .of .text, filter := some (.ofLength 1) }
  have hmodel : planted.2.model w.model = m := rfl
  have hroot : m.contains (m.handle 0) = true := h.numbered.contains_handle (by rw [← hm]; decide)
  have hfilter : w.NeverFails m := by
    rintro _ hw n hn
    obtain rfl := Option.some_inj.1 hw
    obtain ⟨i, hi, rfl⟩ := exists_handle_of_contains hn
    exact ⟨_, congrArg _ (congrArg _ (h.numbered.ask_handle hi _))⟩
  have hshown : (m.handles [0, 1, 2, 5, 6, 7]).filter (w.admits m) = m.handles [1, 5, 7] := by
    subst hm
    decide +kernel
  obtain ⟨all, hlisted, hwalk⟩ := h.walk_shows_descendants (w := w) hroot hfilter
  obtain rfl := Except.ok.inj (hall.symm.trans hlisted)
  obtain ⟨-, hdrain, -⟩ := hwalk [] planted.2 (by simp [hmodel])
  obtain ⟨-, hrest, -⟩ := hwalk [planted.2] planted.2 (by simp [hmodel])
  rw [hshown] at hdrain hrest
  exact ⟨m, w, planted.2, h, hroot, hfilter, hmodel, hdrain, hrest⟩

end Grove

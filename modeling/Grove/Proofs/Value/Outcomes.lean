/-
The outcomes of a value: what a walk through its items comes to, one place after the other, an
item or a failure to get one. How sequences are nested does not show in them. What is carried
over the items of a value is carried over its outcomes, up to the first failure
(`Value.foldItems_eq_foldlM_outcomes`). So all items can be had if no outcome is a failure, and
the failure to have them is the first one (`Value.flatten_eq_itemsOf`).
-/
import Grove.Value.Fold

namespace Grove

/-- What a walk comes to in one place: an item, or a failure to get one. -/
abbrev Outcome := Except Error Value

namespace Value

/-- Consecutive integers. -/
def integers : Nat → Int → List Value
  | 0, _ => []
  | count + 1, i => ofInt i :: integers count (i + 1)

end Value

/-- What comes of a test that may fail: what passes it, or the failure, or nothing. -/
def accepted? {α ε : Type} (accepts : α → Except ε Bool) (a : α) : Option (Except ε α) :=
  match accepts a with
  | .ok true => some (.ok a)
  | .ok false => none
  | .error e => some (.error e)

namespace NodeWalk

/-- The outcomes of showing some nodes. -/
def outcomesAmong (w : NodeWalk) (m : Model) (is : List Nat) : List Outcome :=
  (is.filterMap (accepted? fun i => w.accepts m (m.handle i))).map (·.map fun i => .node (m.handle i))

def outcomes (w : NodeWalk) (f : Forest) : List Outcome :=
  let m := f.model w.model
  match m.locate w.root with
  | .error e => [.error (.ofTree e)]
  | .ok i => w.outcomesAmong m (m.tree.subtree i)

end NodeWalk

mutual

/-- The outcomes of the items of a value. -/
def Value.outcomes (f : Forest) : Value → List Outcome
  | .sequence s => s.outcomes f
  | v => [.ok v]
  termination_by structural v => v

/-- The outcomes of the items of a sequence. -/
def Sequence.outcomes (f : Forest) : Sequence → List Outcome
  | .list items => outcomesOfList f items
  | .range first last => (Value.integers (rangeSize first last) first.toInt).map .ok
  | .cached inner => inner.outcomes f
  | .evaluated _ evaluations => outcomesOfEvaluations f evaluations
  | .nodes walk => walk.outcomes f
  termination_by structural s => s

/-- The outcomes of the items of several values. -/
def outcomesOfList (f : Forest) : List Value → List Outcome
  | [] => []
  | v :: vs => v.outcomes f ++ outcomesOfList f vs
  termination_by structural vs => vs

/-- The outcomes of the items of the value of an expression. -/
def outcomesOfResult (f : Forest) : Except Error Value → List Outcome
  | .ok v => v.outcomes f
  | .error e => [.error e]
  termination_by structural r => r

/-- The outcomes of the items of the values of several expressions. -/
def outcomesOfEvaluations (f : Forest) : List (Forest → Except Error Value) → List Outcome
  | [] => []
  | x :: xs => outcomesOfResult f (x f) ++ outcomesOfEvaluations f xs
  termination_by structural xs => xs

end

/-- The items of outcomes, if there is no failure among them, and else the first failure. -/
def itemsOf (rs : List Outcome) : Except Error (List Value) := rs.mapM id

/-- A step for items, as a step for outcomes. -/
def stepOn {σ ε : Type} (raise : Error → ε) (step : σ → Value → Except ε σ) (s : σ) :
    Outcome → Except ε σ
  | .ok v => step s v
  | .error e => .error (raise e)

/-! ## Items -/

section Items

variable {rs ss : List Outcome} {xs : List Value}

theorem itemsOf_cons (r : Outcome) (rs : List Outcome) :
    itemsOf (r :: rs) = r.bind fun x => (itemsOf rs).map (x :: ·) := by
  rw [itemsOf, List.mapM_cons]
  cases r with
  | error e => rfl
  | ok x => cases h : rs.mapM id <;> simp [itemsOf, h, bind, Except.bind, Except.map, pure, Except.pure]

theorem itemsOf_eq_ok_iff : itemsOf rs = .ok xs ↔ rs = xs.map .ok := by
  induction rs generalizing xs with
  | nil => simp [itemsOf, pure, Except.pure, eq_comm]
  | cons r rs ih =>
    rw [itemsOf_cons]
    cases r with
    | error e => cases xs <;> simp [Except.bind]
    | ok x =>
      rw [Except.bind, map_eq_ok_iff]
      cases xs with
      | nil => simp
      | cons y ys =>
        simp only [ih, List.map_cons, List.cons.injEq, Except.ok.injEq]
        constructor
        · rintro ⟨_, hrest, rfl, rfl⟩
          exact ⟨rfl, hrest⟩
        · rintro ⟨rfl, hrest⟩
          exact ⟨ys, hrest, rfl, rfl⟩

/-- What fails at none of the items is carried over all of them. -/
theorem foldlM_stepOn_map_ok {σ ε : Type} (raise : Error → ε) (step : σ → Value → Except ε σ) (s : σ)
    (xs : List Value) : (xs.map .ok).foldlM (stepOn raise step) s = xs.foldlM step s := by
  rw [List.foldlM_map]
  rfl

/-- Items that are gathered one by one. -/
theorem foldlM_push (rs : List Outcome) (before : Array Value) :
    rs.foldlM (stepOn id fun items item => .ok (items.push item)) before =
      (itemsOf rs).map fun xs => before ++ xs.toArray := by
  induction rs generalizing before with
  | nil => simp [itemsOf, pure, Except.pure, Except.map]
  | cons r rs ih =>
    rw [itemsOf_cons]
    cases r with
    | error e => rfl
    | ok x =>
      show rs.foldlM _ (before.push x) = _
      rw [ih]
      cases itemsOf rs <;> simp [Except.bind, Except.map]

end Items

/-! ## Carrying a state over items -/

section Carry

variable {σ ε : Type} (raise : Error → ε) (step : σ → Value → Except ε σ)

theorem foldlM_outcome (r : Outcome) (s : σ) :
    [r].foldlM (stepOn raise step) s = stepOn raise step s r := by
  cases h : stepOn raise step s r <;> simp [List.foldlM, h, bind, Except.bind, pure, Except.pure]

theorem foldRange_eq (count : Nat) (i : Int) (s : σ) :
    foldRange step count i s =
      ((Value.integers count i).map .ok).foldlM (stepOn raise step) s := by
  induction count generalizing i s with
  | zero => rfl
  | succ count ih =>
    rw [foldRange, Value.integers, List.map_cons, List.foldlM_cons, stepOn]
    cases step s (Value.ofInt i) with
    | error e => rfl
    | ok s => exact ih (i + 1) s

theorem NodeWalk.foldNodes_eq (w : NodeWalk) (m : Model) (is : List Nat) (s : σ) :
    foldNodes raise step (w.accepts m) (m.handles is) s =
      (w.outcomesAmong m is).foldlM (stepOn raise step) s := by
  induction is generalizing s with
  | nil => rfl
  | cons i is ih =>
    rw [Model.handles, List.map_cons, foldNodes, ← Model.handles, outcomesAmong, List.filterMap_cons,
      accepted?]
    cases w.accepts m (m.handle i) with
    | error e => rfl
    | ok shown =>
      cases shown with
      | false => exact ih s
      | true =>
        show _ = (Except.ok _ :: w.outcomesAmong m is).foldlM _ s
        rw [List.foldlM_cons, stepOn]
        cases step s (.node (m.handle i)) with
        | error e => rfl
        | ok s => exact ih s

theorem NodeWalk.fold_eq (w : NodeWalk) (f : Forest) (s : σ) :
    w.fold f raise step s = (w.outcomes f).foldlM (stepOn raise step) s := by
  rw [fold, outcomes, Model.descendants, Model.ask]
  cases (f.model w.model).locate w.root with
  | error e => rfl
  | ok i => exact w.foldNodes_eq raise step _ _ s

mutual

theorem Value.foldItems_eq_foldlM_outcomes (f : Forest) : ∀ (v : Value) (s : σ),
    v.foldItems f raise step s = (v.outcomes f).foldlM (stepOn raise step) s
  | .sequence inner, s => inner.foldItems_eq_foldlM_outcomes f s
  | .string t, s => (foldlM_outcome raise step (.ok (.string t)) s).symm
  | .number n, s => (foldlM_outcome raise step (.ok (.number n)) s).symm
  | .boolean b, s => (foldlM_outcome raise step (.ok (.boolean b)) s).symm
  | .node h, s => (foldlM_outcome raise step (.ok (.node h)) s).symm
  termination_by structural v => v

theorem Sequence.foldItems_eq_foldlM_outcomes (f : Forest) : ∀ (t : Sequence) (s : σ),
    t.foldItems f raise step s = (t.outcomes f).foldlM (stepOn raise step) s
  | .list items, s => foldItemsOfList_eq f items s
  | .range first last, s => foldRange_eq raise step (rangeSize first last) first.toInt s
  | .cached inner, s => inner.foldItems_eq_foldlM_outcomes f s
  | .evaluated _ evaluations, s => foldItemsOfEvaluations_eq f evaluations s
  | .nodes walk, s => walk.fold_eq raise step f s
  termination_by structural t => t

theorem foldItemsOfList_eq (f : Forest) : ∀ (vs : List Value) (s : σ),
    foldItemsOfList f raise step vs s = (outcomesOfList f vs).foldlM (stepOn raise step) s
  | [], _ => rfl
  | v :: vs, s => by
    rw [foldItemsOfList, outcomesOfList, List.foldlM_append, v.foldItems_eq_foldlM_outcomes f s]
    cases (v.outcomes f).foldlM (stepOn raise step) s with
    | error e => rfl
    | ok s => exact foldItemsOfList_eq f vs s
  termination_by structural vs => vs

theorem foldItemsOfOutcome_eq (f : Forest) : ∀ (r : Except Error Value) (s : σ),
    foldItemsOfOutcome f raise step r s = (outcomesOfResult f r).foldlM (stepOn raise step) s
  | .ok v, s => v.foldItems_eq_foldlM_outcomes f s
  | .error _, _ => rfl
  termination_by structural r => r

theorem foldItemsOfEvaluations_eq (f : Forest) :
    ∀ (xs : List (Forest → Except Error Value)) (s : σ), foldItemsOfEvaluations f raise step xs s =
      (outcomesOfEvaluations f xs).foldlM (stepOn raise step) s
  | [], _ => rfl
  | x :: xs, s => by
    rw [foldItemsOfEvaluations, outcomesOfEvaluations, List.foldlM_append,
      foldItemsOfOutcome_eq f (x f) s]
    cases (outcomesOfResult f (x f)).foldlM (stepOn raise step) s with
    | error e => rfl
    | ok s => exact foldItemsOfEvaluations_eq f xs s
  termination_by structural xs => xs

end

end Carry

/-! ## The list of the items -/

namespace Value

variable {f : Forest} {v : Value} {vs xs : List Value}

theorem flatten_eq_itemsOf (f : Forest) (v : Value) : v.flatten f = itemsOf (v.outcomes f) := by
  rw [flatten, foldItems_eq_foldlM_outcomes, foldlM_push]
  cases itemsOf (v.outcomes f) <;> simp [Except.map]

theorem flatten_eq_ok_iff : v.flatten f = .ok xs ↔ v.outcomes f = xs.map .ok := by
  rw [flatten_eq_itemsOf, itemsOf_eq_ok_iff]

/-- What is carried over the items of a value is carried over their list. -/
theorem foldItems_eq_foldlM {σ ε : Type} (h : v.flatten f = .ok xs) (raise : Error → ε)
    (step : σ → Value → Except ε σ) (s : σ) : v.foldItems f raise step s = xs.foldlM step s := by
  rw [foldItems_eq_foldlM_outcomes, flatten_eq_ok_iff.1 h, foldlM_stepOn_map_ok]

theorem flatten_cons : (ofList (v :: vs)).flatten f = .ok xs ↔
    ∃ ys zs, v.flatten f = .ok ys ∧ (ofList vs).flatten f = .ok zs ∧ xs = ys ++ zs := by
  have houtcomes : (ofList (v :: vs)).outcomes f = v.outcomes f ++ (ofList vs).outcomes f := rfl
  simp only [flatten_eq_ok_iff, houtcomes]
  rw [eq_comm, List.map_eq_append_iff]
  constructor
  · rintro ⟨ys, zs, rfl, hys, hzs⟩
    exact ⟨ys, zs, hys.symm, hzs.symm, rfl⟩
  · rintro ⟨ys, zs, hys, hzs, rfl⟩
    exact ⟨ys, zs, rfl, hys.symm, hzs.symm⟩

end Value

/-! ## The truth of outcomes -/

/-- The truth of a value with the given outcomes. -/
def truthOf (rs : List Outcome) : Except Error Bool :=
  match rs.foldlM (stepOn .failed Value.truthStep) none with
  | .ok seen => .ok (seen.any Value.isTrue)
  | .error (.decided b) => .ok b
  | .error (.failed e) => .error e

theorem Value.effectiveBoolean_eq_truthOf (f : Forest) (v : Value) :
    v.effectiveBoolean f = truthOf (v.outcomes f) := by
  cases v with
  | sequence s =>
    rw [effectiveBoolean, Sequence.foldItems_eq_foldlM_outcomes]
    rfl
  | _ => rfl

/-! ## No item is a sequence -/

/-- An item that is no sequence, or a failure. -/
def Outcome.Single : Outcome → Prop
  | .ok v => v.isSequence = false
  | .error _ => True

theorem NodeWalk.single_outcomes (w : NodeWalk) (f : Forest) : ∀ r ∈ w.outcomes f, Outcome.Single r := by
  intro r hr
  unfold outcomes at hr
  dsimp only at hr
  split at hr
  next e _ =>
    obtain rfl := List.mem_singleton.1 hr
    trivial
  next =>
    obtain ⟨s, -, rfl⟩ := List.mem_map.1 hr
    cases s with
    | ok i => rfl
    | error e => trivial

theorem Value.single_integers (count : Nat) (i : Int) :
    ∀ r ∈ (integers count i).map Except.ok, Outcome.Single r := by
  induction count generalizing i with
  | zero => simp [integers]
  | succ count ih => exact List.forall_mem_cons.2 ⟨rfl, ih (i + 1)⟩

mutual

theorem Value.single_outcomes (f : Forest) : ∀ v : Value, ∀ r ∈ v.outcomes f, Outcome.Single r
  | .sequence s => s.single_outcomes f
  | .string _ => List.forall_mem_singleton.2 rfl
  | .number _ => List.forall_mem_singleton.2 rfl
  | .boolean _ => List.forall_mem_singleton.2 rfl
  | .node _ => List.forall_mem_singleton.2 rfl
  termination_by structural v => v

theorem Sequence.single_outcomes (f : Forest) : ∀ s : Sequence, ∀ r ∈ s.outcomes f, Outcome.Single r
  | .list items => single_outcomesOfList f items
  | .range first last => Value.single_integers (rangeSize first last) first.toInt
  | .cached inner => inner.single_outcomes f
  | .evaluated _ evaluations => single_outcomesOfEvaluations f evaluations
  | .nodes walk => walk.single_outcomes f
  termination_by structural s => s

theorem single_outcomesOfList (f : Forest) : ∀ vs : List Value,
    ∀ r ∈ outcomesOfList f vs, Outcome.Single r
  | [] => by simp [outcomesOfList]
  | v :: vs => List.forall_mem_append.2 ⟨v.single_outcomes f, single_outcomesOfList f vs⟩
  termination_by structural vs => vs

theorem single_outcomesOfResult (f : Forest) : ∀ r : Except Error Value,
    ∀ s ∈ outcomesOfResult f r, Outcome.Single s
  | .ok v => v.single_outcomes f
  | .error _ => List.forall_mem_singleton.2 trivial
  termination_by structural r => r

theorem single_outcomesOfEvaluations (f : Forest) : ∀ xs : List (Forest → Except Error Value),
    ∀ r ∈ outcomesOfEvaluations f xs, Outcome.Single r
  | [] => by simp [outcomesOfEvaluations]
  | x :: xs => List.forall_mem_append.2
      ⟨single_outcomesOfResult f (x f), single_outcomesOfEvaluations f xs⟩
  termination_by structural xs => xs

end

end Grove

/-
The effective boolean value. It depends on the outcomes of a value alone, and on the first two of
them: a node in front decides, and so does a second item, or a failure before there is one
(`Value.effectiveBoolean_decided_early`).

It can be had from cursors, with a stack of those that are open, and that loop comes to the same
however sequences are nested (`Cursor.settles`). A cursor may give a sequence, so what it gives are
not outcomes; but together with what the cursors of these sequences give they are the outcomes of
its own sequence (`Sequence.gives`).
-/
import Grove.Proofs.Value.Walk

namespace Grove

/-! ## What cursors give -/

namespace Cursor

/-- A cursor gives outcomes, one value after the other: an item, or what the cursor of a sequence
gives. Nothing is known of what would come after a failure. -/
inductive Gives (f : Forest) : Cursor → List Outcome → Prop
  | ended {c : Cursor} : (c.next f).1 = .ok none → Gives f c []
  | failed {c : Cursor} {e : Error} {rs : List Outcome} : (c.next f).1 = .error e →
      Gives f c (.error e :: rs)
  | item {c : Cursor} {v : Value} {rs : List Outcome} : (c.next f).1 = .ok (some v) →
      v.isSequence = false → Gives f (c.next f).2 rs → Gives f c (.ok v :: rs)
  | nested {c : Cursor} {s : Sequence} {rs ss : List Outcome} :
      (c.next f).1 = .ok (some (.sequence s)) → Gives f (ofSequence s) rs → Gives f (c.next f).2 ss →
      Gives f c (rs ++ ss)

variable {f : Forest} {c : Cursor} {rs : List Outcome}

/-- A cursor that comes to the first of some outcomes and is left with the others gives them all,
if none of them is a sequence. -/
theorem Gives.of_steps (Left : List Outcome → Cursor → Prop)
    (hstep : ∀ rs c, Left rs c → (c.next f).1 = firstOutcome rs ∧ Left rs.tail (c.next f).2)
    (hsingle : ∀ r ∈ rs, Outcome.Single r) (h : Left rs c) : c.Gives f rs := by
  induction rs generalizing c with
  | nil => exact .ended (hstep _ _ h).1
  | cons r rs ih =>
    obtain ⟨hnext, hleft⟩ := hstep _ _ h
    obtain ⟨hr, hothers⟩ := List.forall_mem_cons.1 hsingle
    cases r with
    | error e => exact .failed hnext
    | ok v => exact .item hnext hr (ih hothers hleft)

theorem next_range (f : Forest) (first last : Int64) (next : Option Int64) :
    ((range first last next).next f).1 = firstOutcome ((integersFrom last next).map .ok) ∧
      ∃ next', ((range first last next).next f).2 = range first last next' ∧
        integersFrom last next' = (integersFrom last next).tail := by
  cases next with
  | none => exact ⟨rfl, none, rfl, rfl⟩
  | some i => exact ⟨rfl, _, rfl, integersFrom_following last i⟩

theorem gives_range (f : Forest) (first last : Int64) (next : Option Int64) :
    (range first last next).Gives f ((integersFrom last next).map .ok) := by
  refine Gives.of_steps (fun rs c => ∃ next, c = range first last next ∧
    rs = (integersFrom last next).map .ok) ?_ ?_ ⟨next, rfl, rfl⟩
  · rintro _ _ ⟨next, rfl, rfl⟩
    obtain ⟨hnext, next', hcursor, htail⟩ := next_range f first last next
    exact ⟨hnext, next', hcursor, by rw [htail, List.map_tail]⟩
  · cases next with
    | none => simp [integersFrom]
    | some i => exact Value.single_integers _ _

theorem gives_nodes (f : Forest) (w : NodeWalk) : (ofSequence (.nodes w)).Gives f (w.outcomes f) :=
  Gives.of_steps _ (fun _ _ h => Walking.next h rfl) (w.single_outcomes f) (.over rfl rfl)

theorem gives_evaluated (f : Forest) (mode : SequenceMode) (es : List Evaluation) :
    (ofSequence (.evaluated mode es)).Gives f (outcomesOfEvaluations f es) := by
  have hsingle := single_outcomesOfEvaluations f es
  cases mode with
  | forwardOnly => exact Gives.of_steps _ (fun _ _ h => h.next) hsingle (Forward.over rfl rfl)
  | cached =>
    refine Gives.of_steps (fun rs c => ∃ kept, kept.next? = none ∧ Keeping f kept rs c) ?_ hsingle
      ⟨{}, rfl, .over rfl⟩
    rintro rs c ⟨kept, hend, h⟩
    obtain ⟨hnext, hkeeping⟩ := h.next_end hend
    refine ⟨hnext, _, ?_, hkeeping⟩
    rcases rs with _ | ⟨_ | _, _⟩
    · exact hend
    · exact hend
    · rfl

/-- Values that are kept are given as they come. -/
theorem Gives.kept (h : c.Gives f rs) {kept : Zipper Value} (hend : kept.next? = none) :
    (cached c kept false).Gives f rs := by
  induction h generalizing kept with
  | ended hnext => exact .ended (congrArg Prod.fst (next_cached_none hend hnext))
  | failed hnext => exact .failed (congrArg Prod.fst (next_cached_error hend hnext))
  | item hnext hv _ ih =>
    have hkept := next_cached_some hend hnext
    refine .item (congrArg Prod.fst hkept) hv ?_
    rw [hkept]
    exact ih rfl
  | nested hnext hs _ _ ih =>
    have hkept := next_cached_some hend hnext
    refine .nested (congrArg Prod.fst hkept) hs ?_
    rw [hkept]
    exact ih rfl

end Cursor

mutual

theorem Value.gives (f : Forest) : ∀ (v : Value) {c : Cursor} {rs : List Outcome},
    (c.next f).1 = .ok (some v) → (c.next f).2.Gives f rs → c.Gives f (v.outcomes f ++ rs)
  | .sequence s, _, _, hnext, hrest => .nested hnext (s.gives f) hrest
  | .string _, _, _, hnext, hrest => .item hnext rfl hrest
  | .number _, _, _, hnext, hrest => .item hnext rfl hrest
  | .boolean _, _, _, hnext, hrest => .item hnext rfl hrest
  | .node _, _, _, hnext, hrest => .item hnext rfl hrest
  termination_by structural v => v

/-- The cursor of a sequence gives the outcomes of the sequence. -/
theorem Sequence.gives (f : Forest) : ∀ s : Sequence, (Cursor.ofSequence s).Gives f (s.outcomes f)
  | .list items => gives_list f items []
  | .range first last => by
    rw [← Cursor.pending_ofRange]
    exact Cursor.gives_range f first last _
  | .cached inner => (inner.gives f).kept rfl
  | .evaluated mode evaluations => Cursor.gives_evaluated f mode evaluations
  | .nodes walk => Cursor.gives_nodes f walk
  termination_by structural s => s

theorem gives_list (f : Forest) : ∀ (vs passed : List Value),
    (Cursor.list ⟨passed, vs⟩).Gives f (outcomesOfList f vs)
  | [], _ => .ended rfl
  | v :: vs, passed => v.gives f rfl (gives_list f vs (v :: passed))
  termination_by structural vs => vs

end

/-! ## The loop over open cursors -/

namespace Cursor

/-- The truth of what is ahead of open cursors, the innermost first, if so many moves decide it. The
cursor of a sequence is opened where the sequence is come to, and left at its end. -/
def settle (f : Forest) : Nat → List Cursor → Option Value → Option (Except Error Bool)
  | 0, _, _ => none
  | _ + 1, [], seen => some (.ok (seen.any Value.isTrue))
  | moves + 1, top :: rest, seen =>
    match top.next f with
    | (.error e, _) => some (.error e)
    | (.ok none, _) => settle f moves rest seen
    | (.ok (some (.sequence s)), top) => settle f moves (ofSequence s :: top :: rest) seen
    | (.ok (some item), top) =>
      match Value.truthStep seen item with
      | .ok seen => settle f moves (top :: rest) seen
      | .error (.decided b) => some (.ok b)
      | .error (.failed e) => some (.error e)

/-- How the loop goes on after what it has seen. -/
def settleOn (f : Forest) (moves : Nat) (rest : List Cursor) :
    Except (Stop Bool) (Option Value) → Option (Except Error Bool)
  | .ok seen => settle f moves rest seen
  | .error (.decided b) => some (.ok b)
  | .error (.failed e) => some (.error e)

section Steps

variable {f : Forest} {top : Cursor} {rest : List Cursor} {seen : Option Value} {moves : Nat}

theorem settle_of_error {e : Error} (h : (top.next f).1 = .error e) :
    settle f (moves + 1) (top :: rest) seen = some (.error e) := by
  have hmoved : top.next f = (.error e, (top.next f).2) := Prod.ext h rfl
  rw [settle, hmoved]

theorem settle_of_none (h : (top.next f).1 = .ok none) :
    settle f (moves + 1) (top :: rest) seen = settle f moves rest seen := by
  have hmoved : top.next f = (.ok none, (top.next f).2) := Prod.ext h rfl
  rw [settle, hmoved]

theorem settle_of_sequence {s : Sequence} (h : (top.next f).1 = .ok (some (.sequence s))) :
    settle f (moves + 1) (top :: rest) seen =
      settle f moves (ofSequence s :: (top.next f).2 :: rest) seen := by
  have hmoved : top.next f = (.ok (some (.sequence s)), (top.next f).2) := Prod.ext h rfl
  rw [settle, hmoved]

theorem settle_of_item {v : Value} (h : (top.next f).1 = .ok (some v)) (hv : v.isSequence = false) :
    settle f (moves + 1) (top :: rest) seen =
      settleOn f moves ((top.next f).2 :: rest) (Value.truthStep seen v) := by
  have hmoved : top.next f = (.ok (some v), (top.next f).2) := Prod.ext h rfl
  rw [settle, hmoved]
  cases v with
  | sequence s => cases hv
  | _ => rfl

end Steps

variable {f : Forest} {c : Cursor} {rs : List Outcome}

/-- A cursor is left when all that it gives is seen, if that does not decide. -/
theorem Gives.settle_eq (h : c.Gives f rs) (rest : List Cursor) (seen : Option Value) :
    ∃ least, ∀ moves, settle f (least + moves) (c :: rest) seen =
      settleOn f moves rest (rs.foldlM (stepOn .failed Value.truthStep) seen) := by
  induction h generalizing rest seen with
  | ended hnext => exact ⟨1, fun moves => by rw [Nat.add_comm, settle_of_none hnext]; rfl⟩
  | failed hnext => exact ⟨1, fun moves => by rw [Nat.add_comm, settle_of_error hnext]; rfl⟩
  | @item c v rs hnext hv _ ih =>
    rw [List.foldlM_cons, stepOn]
    cases hstep : Value.truthStep seen v with
    | error stop =>
      refine ⟨1, fun moves => ?_⟩
      rw [Nat.add_comm, settle_of_item hnext hv, hstep]
      cases stop <;> rfl
    | ok seen' =>
      obtain ⟨least, hrest⟩ := ih rest seen'
      refine ⟨least + 1, fun moves => ?_⟩
      rw [Nat.add_right_comm, settle_of_item hnext hv, hstep]
      exact hrest moves
  | @nested c s rs ss hnext _ _ ihs ih =>
    obtain ⟨least, hnested⟩ := ihs ((c.next f).2 :: rest) seen
    rw [List.foldlM_append]
    cases hfold : rs.foldlM (stepOn .failed Value.truthStep) seen with
    | error stop =>
      refine ⟨least + 1, fun moves => ?_⟩
      rw [Nat.add_right_comm, settle_of_sequence hnext, hnested, hfold]
      cases stop <;> rfl
    | ok seen' =>
      obtain ⟨least', hrest⟩ := ih rest seen'
      refine ⟨least + least' + 1, fun moves => ?_⟩
      rw [Nat.add_right_comm, settle_of_sequence hnext, Nat.add_assoc, hnested, hfold]
      exact hrest moves

/-- The loop comes to an end, and to the effective boolean value. -/
theorem settles (f : Forest) (s : Sequence) :
    ∃ least, ∀ moves ≥ least,
      settle f moves [ofSequence s] none = some ((Value.sequence s).effectiveBoolean f) := by
  obtain ⟨least, hmoves⟩ := (s.gives f).settle_eq [] none
  refine ⟨least + 1, fun moves hle => ?_⟩
  obtain ⟨more, rfl⟩ := Nat.exists_eq_add_of_le hle
  rw [Nat.add_right_comm, Nat.add_assoc, hmoves, Value.effectiveBoolean_eq_truthOf, truthOf,
    Value.outcomes]
  cases (s.outcomes f).foldlM (stepOn .failed Value.truthStep) none with
  | ok seen => rfl
  | error stop => cases stop <;> rfl

end Cursor

/-! ## What decides -/

/-- The truth of a sequence whose items have some outcomes. -/
def truthOfFirst : List Outcome → Except Error Bool
  | [] => .ok false
  | .error e :: _ => .error e
  | .ok (.node _) :: _ => .ok true
  | [.ok atomic] => .ok atomic.isTrue
  | .ok _ :: .ok _ :: _ => .error Value.undecided
  | .ok _ :: .error e :: _ => .error e

theorem truthOf_eq_truthOfFirst (rs : List Outcome) : truthOf rs = truthOfFirst rs := by
  match rs with
  | [] => rfl
  | .error _ :: _ => rfl
  | .ok v :: rest =>
    cases v with
    | node h => rfl
    | _ =>
      match rest with
      | [] => rfl
      | .ok _ :: _ => rfl
      | .error _ :: _ => rfl

/-- An item that is no sequence decides by itself. The truth of a sequence is that of its items, in
whatever sequences they are: a node in front makes it true, whatever comes behind; a second item
makes it undecided; and a failure counts only if nothing has been decided before. The loop over the
cursors that are open comes to this as well. -/
theorem Value.effectiveBoolean_decided_early (f : Forest) :
    (∀ v : Value, v.isSequence = false → v.effectiveBoolean f = .ok v.isTrue) ∧
    ∀ s : Sequence, (sequence s).flatten f = itemsOf (s.outcomes f) ∧
      (sequence s).effectiveBoolean f = truthOfFirst (s.outcomes f) ∧
      ∃ least, ∀ moves ≥ least, Cursor.settle f moves [.ofSequence s] none =
        some (truthOfFirst (s.outcomes f)) := by
  have htruth : ∀ s : Sequence, (sequence s).effectiveBoolean f = truthOfFirst (s.outcomes f) := fun s =>
    (effectiveBoolean_eq_truthOf f (.sequence s)).trans (truthOf_eq_truthOfFirst _)
  refine ⟨fun v hv => ?_, fun s => ⟨flatten_eq_itemsOf f _, htruth s, ?_⟩⟩
  · cases v with
    | sequence s => cases hv
    | _ => rfl
  · rw [← htruth]
    exact Cursor.settles f s

/-- Two strings behind empty sequences, and then a failure that is not come to. -/
theorem Value.effectiveBoolean_decided_early_nested :
    let late : Error := .mistyped "late"
    let inner : Sequence := .evaluated .forwardOnly
      [fun _ => .ok .empty, fun _ => .ok (.string "a"), fun _ => .ok (ofList [.empty, .string "b"]),
        fun _ => .error late]
    (boolean false).isSequence = false ∧ (boolean false).effectiveBoolean default = .ok false ∧
      (sequence (.list [.empty, .sequence inner])).flatten default = .error late ∧
      (sequence (.list [.empty, .sequence inner])).effectiveBoolean default = .error undecided := by
  intro late inner
  obtain ⟨hitem, hsequence⟩ := effectiveBoolean_decided_early default
  obtain ⟨hflatten, htruth, -⟩ := hsequence (.list [.empty, .sequence inner])
  exact ⟨rfl, hitem _ rfl, hflatten, htruth⟩

end Grove

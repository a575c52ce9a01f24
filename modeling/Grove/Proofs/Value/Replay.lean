/-
Scripts of moves. Cursors that can go backward are told apart neither by their answers nor by
the way they come by their values: each of them answers every script of moves as a position in
the list of its values does (`Cursor.replays_as_list`). The cursor over listed values is such a
position; the others keep what they have come to, and get a new value only where nothing kept
is ahead.

A step lemma for each cursor says what one move does; the run is the same induction for all of
them (`Cursor.play_eq`).
-/
import Grove.Eval.Evaluate
import Grove.Proofs.Value.Pending

namespace Grove

/-- What a cursor can be told to do. -/
inductive Move where
  | next
  | previous
  | reset
  deriving DecidableEq, Repr

namespace Move

variable {α : Type}

/-- Where a move takes a position in a list. -/
def target (xs : List α) (p : Nat) : Move → Nat
  | .next => if p < xs.length then p + 1 else p
  | .previous => p - 1
  | .reset => 0

/-- The item that a move from a position in a list passes, if it passes one. -/
def answer (xs : List α) (p : Nat) : Move → Option α
  | .next => xs[p]?
  | .previous => if p = 0 then none else xs[p - 1]?
  | .reset => none

/-- The answers to a script, from a position in a list on. -/
def answers (xs : List α) : Nat → List Move → List (Option α)
  | _, [] => []
  | p, m :: script => m.answer xs p :: answers xs (m.target xs p) script

variable {xs : List α} {p : Nat} {x : α}

theorem target_next_of_some (h : xs[p]? = some x) : target xs p .next = p + 1 := by
  obtain ⟨hlt, -⟩ := List.getElem?_eq_some_iff.1 h
  simp [target, hlt]

theorem target_next_of_none (h : xs[p]? = none) : target xs p .next = p := by
  have hle := List.getElem?_eq_none_iff.1 h
  simp [target, hle]

end Move

/-- A position in a list with its past. -/
structure Mark where
  position : Nat := 0
  /-- The largest position there has been. -/
  reached : Nat := 0
  /-- Whether there was a move beyond the end. -/
  ended : Bool := false

namespace Mark

variable {α : Type}

def after (xs : List α) (k : Mark) (m : Move) : Mark where
  position := m.target xs k.position
  reached := max k.reached (m.target xs k.position)
  ended := k.ended || m == .next && k.position == xs.length

/-- Whether a move goes where there has been none and none was beyond the end. -/
def asks (k : Mark) (m : Move) : Prop := m = .next ∧ k.position = k.reached ∧ k.ended = false

/-- How many moves went there. -/
def asked (k : Mark) : Nat := k.reached + if k.ended then 1 else 0

/-- A move that asks for nothing changes the position alone. -/
theorem after_eq {xs : List α} {k : Mark} {m : Move} (hreached : m.target xs k.position ≤ k.reached)
    (hended : m = .next → k.position = xs.length → k.ended = true) :
    k.after xs m = { k with position := m.target xs k.position } := by
  have hend : (k.ended || m == .next && k.position == xs.length) = k.ended := by
    cases hk : k.ended with
    | true => rfl
    | false => simpa [hk] using hended
  simp [after, hend, Nat.max_eq_left hreached]

end Mark

/-! ## Positions in lists -/

namespace Zipper

variable {α : Type} {z z' : Zipper α} {x : α}

theorem position_le (z : Zipper α) : z.position ≤ z.toList.length := by
  simp [position, toList]

theorem ahead_eq_nil (h : z.next? = none) : z.ahead = [] := by
  obtain ⟨passed, ahead⟩ := z
  cases ahead with
  | nil => rfl
  | cons y rest => simp [next?] at h

theorem ahead_next? (h : z.next? = some (x, z')) : z.ahead = x :: z'.ahead := by
  obtain ⟨passed, ahead⟩ := z
  cases ahead with
  | nil => simp [next?] at h
  | cons y rest =>
    simp only [next?, Option.some.injEq, Prod.mk.injEq] at h
    obtain ⟨rfl, rfl⟩ := h
    rfl

theorem next?_eq_none (h : z.next? = none) : z.position = z.toList.length := by
  obtain ⟨passed, ahead⟩ := z
  cases ahead with
  | nil => simp [position, toList]
  | cons y rest => simp [next?] at h

theorem next?_eq_some (h : z.next? = some (x, z')) :
    z.toList[z.position]? = some x ∧ z'.toList = z.toList ∧ z'.position = z.position + 1 := by
  have hlist := toList_next? h
  obtain ⟨passed, ahead⟩ := z
  cases ahead with
  | nil => simp [next?] at h
  | cons y rest =>
    simp only [next?, Option.some.injEq, Prod.mk.injEq] at h
    obtain ⟨rfl, rfl⟩ := h
    exact ⟨by simp [position, toList], hlist, rfl⟩

theorem previous?_eq_none (h : z.previous? = none) : z.position = 0 := by
  obtain ⟨passed, ahead⟩ := z
  cases passed with
  | nil => rfl
  | cons y rest => simp [previous?] at h

theorem previous?_eq_some (h : z.previous? = some (x, z')) :
    z.position = z'.position + 1 ∧ z'.toList = z.toList ∧ z.toList[z'.position]? = some x := by
  have hlist := toList_previous? h
  obtain ⟨passed, ahead⟩ := z
  cases passed with
  | nil => simp [previous?] at h
  | cons y rest =>
    simp only [previous?, Option.some.injEq, Prod.mk.injEq] at h
    obtain ⟨rfl, rfl⟩ := h
    refine ⟨rfl, hlist, ?_⟩
    simp [position, toList]

/-! A position in the first part of a list is a position in the list. -/

variable {xs : List α} {p : Nat}

theorem next?_part (hpart : z.toList <+: xs) (hposition : z.position = p)
    (h : z.next? = some (x, z')) : Move.answer xs p .next = some x ∧
      z'.toList = z.toList ∧ z'.position = Move.target xs p .next := by
  obtain ⟨hsome, hlist, hmoved⟩ := next?_eq_some h
  obtain ⟨hlt, -⟩ := List.getElem?_eq_some_iff.1 hsome
  obtain ⟨rest, rfl⟩ := hpart
  have hsome : (z.toList ++ rest)[p]? = some x := by
    rw [← hposition, List.getElem?_append_left hlt, hsome]
  exact ⟨hsome, hlist, by rw [hmoved, hposition, Move.target_next_of_some hsome]⟩

theorem previous?_part_none (xs : List α) (hposition : z.position = p) (h : z.previous? = none) :
    Move.answer xs p .previous = none ∧ z.position = Move.target xs p .previous := by
  have hstart := previous?_eq_none h
  simp [Move.answer, Move.target, ← hposition, hstart]

theorem previous?_part (hpart : z.toList <+: xs) (hposition : z.position = p)
    (h : z.previous? = some (x, z')) : Move.answer xs p .previous = some x ∧
      z'.toList = z.toList ∧ z'.position = Move.target xs p .previous := by
  obtain ⟨hmoved, hlist, hsome⟩ := previous?_eq_some h
  obtain ⟨hlt, -⟩ := List.getElem?_eq_some_iff.1 hsome
  obtain ⟨rest, rfl⟩ := hpart
  have hsome : (z.toList ++ rest)[z'.position]? = some x := by
    rw [List.getElem?_append_left hlt, hsome]
  obtain rfl : z'.position + 1 = p := hmoved.symm.trans hposition
  exact ⟨by simpa [Move.answer] using hsome, hlist, rfl⟩

theorem position_record (z : Zipper α) (x : α) : (z.record x).position = z.toList.length + 1 := by
  simp [position, record, toList]
  omega

end Zipper

/-! ## Scripts -/

namespace Cursor

/-- Tells a cursor to move. -/
def move (f : Forest) (c : Cursor) : Move → Except Error (Option Value) × Cursor
  | .next => c.next f
  | .previous => c.previous
  | .reset => (.ok none, c.reset)

/-- The answers of a cursor to a script, and the cursor that is left. -/
def play (f : Forest) : Cursor → List Move → List (Except Error (Option Value)) × Cursor
  | c, [] => ([], c)
  | c, m :: script =>
    let (answer, c) := c.move f m
    let (answers, c) := c.play f script
    (answer :: answers, c)

variable {f : Forest} {xs : List Value}

/-- A cursor that answers each move as a position in a list, and is left standing for where
the move takes the position, answers a script so. -/
theorem play_eq {Stands : Mark → Cursor → Prop}
    (hstep : ∀ k c m, Stands k c →
      (c.move f m).1 = .ok (m.answer xs k.position) ∧ Stands (k.after xs m) (c.move f m).2)
    (script : List Move) {k : Mark} {c : Cursor} (h : Stands k c) :
    (c.play f script).1 = (Move.answers xs k.position script).map .ok ∧
      Stands (script.foldl (Mark.after xs) k) (c.play f script).2 := by
  induction script generalizing k c with
  | nil => exact ⟨rfl, h⟩
  | cons m script ih =>
    obtain ⟨hanswer, hmoved⟩ := hstep k c m h
    obtain ⟨hanswers, hplayed⟩ := ih hmoved
    exact ⟨List.cons_eq_cons.2 ⟨hanswer, hanswers⟩, hplayed⟩

/-! ## Listed values -/

/-- The cursor over listed values is a position in their list. -/
inductive StandsListed (xs : List Value) (k : Mark) : Cursor → Prop
  | over {items : Zipper Value} : items.position = k.position → items.toList = xs →
      StandsListed xs k (.list items)

theorem move_list (k : Mark) (c : Cursor) (m : Move) (h : StandsListed xs k c) :
    (c.move f m).1 = .ok (m.answer xs k.position) ∧ StandsListed xs (k.after xs m) (c.move f m).2 := by
  obtain ⟨hposition, rfl⟩ := h
  rename_i items
  cases m with
  | next =>
    simp only [move, next]
    cases hnext : items.next? with
    | none =>
      have hnone : items.toList[k.position]? = none := by
        simp [← hposition, Zipper.next?_eq_none hnext]
      exact ⟨congrArg _ hnone.symm,
        .over (hposition.trans (Move.target_next_of_none hnone).symm) rfl⟩
    | some moved =>
      obtain ⟨hanswer, hlist, hmoved⟩ := Zipper.next?_part List.prefix_rfl hposition hnext
      exact ⟨congrArg _ hanswer.symm, .over hmoved hlist⟩
  | previous =>
    simp only [move, previous]
    cases hprevious : items.previous? with
    | none =>
      obtain ⟨hanswer, hmoved⟩ := Zipper.previous?_part_none items.toList hposition hprevious
      exact ⟨congrArg _ hanswer.symm, .over hmoved rfl⟩
    | some moved =>
      obtain ⟨hanswer, hlist, hmoved⟩ := Zipper.previous?_part List.prefix_rfl hposition hprevious
      exact ⟨congrArg _ hanswer.symm, .over hmoved hlist⟩
  | reset => exact ⟨rfl, .over rfl rfl⟩

/-! ## Evaluated expressions -/

variable {kept : Zipper Value} {left : List Outcome} {c : Cursor}

theorem next_evaluated_kept {evaluations : Zipper Evaluation} {nested : List Cursor}
    {kept' : Zipper Value} {v : Value} (h : kept.next? = some (v, kept')) :
    (evaluated .cached evaluations nested kept).next f =
      (.ok (some v), evaluated .cached evaluations nested kept') := by
  simp [next, seek, h]

/-- The cursor that keeps its items, with what it keeps and the outcomes that it has not come
to. -/
inductive Keeping (f : Forest) (kept : Zipper Value) (left : List Outcome) : Cursor → Prop
  | over {evaluations : Zipper Evaluation} {nested : List Cursor} :
      pendingOfStack f nested ++ outcomesOfEvaluations f evaluations.ahead = left →
      Keeping f kept left (.evaluated .cached evaluations nested kept)

/-- What is kept once the first of some outcomes is come to: an item is, a failure is not. -/
def keepFirst (kept : Zipper Value) : List Outcome → Zipper Value
  | .ok v :: _ => kept.record v
  | _ => kept

theorem foundNested_cached (evaluations : Zipper Evaluation) (nested : List Cursor)
    (kept : Zipper Value) (rs : List Outcome) :
    (foundNested .cached evaluations nested kept (firstOutcome rs)).outcome = firstOutcome rs ∧
    (foundNested .cached evaluations nested kept (firstOutcome rs)).cursor =
      .evaluated .cached evaluations nested (keepFirst kept rs) := by
  rcases rs with _ | ⟨_ | _, _⟩ <;> exact ⟨rfl, rfl⟩

theorem Keeping.next_kept (h : Keeping f kept left c) {v : Value} {kept' : Zipper Value}
    (hnext : kept.next? = some (v, kept')) :
    (c.next f).1 = .ok (some v) ∧ Keeping f kept' left (c.next f).2 := by
  obtain ⟨hleft⟩ := h
  rw [next_evaluated_kept hnext]
  exact ⟨rfl, .over hleft⟩

theorem Keeping.next_end (h : Keeping f kept left c) (hend : kept.next? = none) :
    (c.next f).1 = firstOutcome left ∧ Keeping f (keepFirst kept left) left.tail (c.next f).2 := by
  obtain ⟨rfl⟩ := h
  rename_i evaluations nested
  have hkept : SequenceMode.cached.replayed kept = [] := Zipper.ahead_eq_nil hend
  obtain ⟨evaluations', nested', hseek, hrest, -⟩ :=
    seek_evaluated_eq evaluations hkept (finds_seekInStack f nested)
  simp only [Cursor.next, hseek, foundNested_cached]
  exact ⟨trivial, .over hrest⟩

theorem Keeping.reset (h : Keeping f kept left c) : Keeping f kept.rewind left c.reset := by
  obtain ⟨hleft⟩ := h
  exact .over hleft

/-- The cursor over evaluated expressions keeps what it has come to of the list of their items,
with a position in it; the other items are ahead. -/
inductive StandsEvaluated (f : Forest) (xs : List Value) (k : Mark) : Cursor → Prop
  | over {evaluations : Zipper Evaluation} {nested : List Cursor} {kept : Zipper Value}
      {ys zs : List Value} : kept.position = k.position → kept.toList ++ (ys ++ zs) = xs →
      itemsOf (pendingOfStack f nested) = .ok ys →
      (Value.sequence (.evaluated .cached evaluations.ahead)).flatten f = .ok zs →
      StandsEvaluated f xs k (.evaluated .cached evaluations nested kept)

theorem Keeping.stands {k : Mark} (rest : List Value) (h : Keeping f kept (rest.map .ok) c)
    (hposition : kept.position = k.position) (hxs : kept.toList ++ rest = xs) :
    StandsEvaluated f xs k c := by
  obtain ⟨hleft⟩ := h
  rw [eq_comm, List.map_eq_append_iff] at hleft
  obtain ⟨ys, zs, rfl, hnested, hevaluations⟩ := hleft
  exact .over hposition hxs (itemsOf_eq_ok_iff.2 hnested.symm)
    (Value.flatten_eq_ok_iff.2 hevaluations.symm)

/-- Where nothing kept is ahead, the first of the items ahead is found and kept. -/
theorem next_evaluated_end {k : Mark} {evaluations : Zipper Evaluation} {nested : List Cursor}
    {ys zs : List Value} (hend : kept.next? = none)
    (hposition : kept.position = k.position) (hnested : itemsOf (pendingOfStack f nested) = .ok ys)
    (hevaluations : (Value.sequence (.evaluated .cached evaluations.ahead)).flatten f = .ok zs)
    (hxs : kept.toList ++ (ys ++ zs) = xs) :
    ((evaluated .cached evaluations nested kept).next f).1 = .ok xs[k.position]? ∧
    StandsEvaluated f xs (k.after xs .next) ((evaluated .cached evaluations nested kept).next f).2 := by
  have hleft : pendingOfStack f nested ++ outcomesOfEvaluations f evaluations.ahead =
      (ys ++ zs).map .ok := by
    rw [itemsOf_eq_ok_iff.1 hnested, List.map_append]
    exact congrArg _ (Value.flatten_eq_ok_iff.1 hevaluations)
  obtain ⟨hanswer, hkeeping⟩ := Keeping.next_end (.over hleft) hend
  have hlength : k.position = kept.toList.length := hposition.symm.trans (Zipper.next?_eq_none hend)
  rw [hanswer]
  cases hahead : ys ++ zs with
  | nil =>
    rw [hahead] at hkeeping hxs
    have hnone : xs[k.position]? = none := by simp [← hxs, hlength]
    have htarget := Move.target_next_of_none hnone
    exact ⟨congrArg _ hnone.symm, Keeping.stands [] hkeeping (hposition.trans htarget.symm) hxs⟩
  | cons v rest =>
    rw [hahead] at hkeeping hxs
    have hsome : xs[k.position]? = some v := by simp [← hxs, hlength]
    have htarget := Move.target_next_of_some hsome
    refine ⟨congrArg _ hsome.symm, Keeping.stands rest hkeeping ?_ ?_⟩
    · show (kept.record v).position = _
      rw [Zipper.position_record, ← hlength]
      exact htarget.symm
    · show (kept.record v).toList ++ rest = xs
      rw [Zipper.toList_record, ← hxs]
      simp

theorem move_evaluated (k : Mark) (c : Cursor) (m : Move) (h : StandsEvaluated f xs k c) :
    (c.move f m).1 = .ok (m.answer xs k.position) ∧
      StandsEvaluated f xs (k.after xs m) (c.move f m).2 := by
  obtain ⟨hposition, hxs, hnested, hevaluations⟩ := h
  rename_i evaluations nested kept ys zs
  have hpart : kept.toList <+: xs := ⟨_, hxs⟩
  cases m with
  | next =>
    cases hnext : kept.next? with
    | none => exact next_evaluated_end hnext hposition hnested hevaluations hxs
    | some moved =>
      obtain ⟨hanswer, hlist, hmoved⟩ := Zipper.next?_part hpart hposition hnext
      rw [move, next_evaluated_kept hnext]
      exact ⟨congrArg _ hanswer.symm, .over hmoved (hlist ▸ hxs) hnested hevaluations⟩
  | previous =>
    simp only [move, previous]
    cases hprevious : kept.previous? with
    | none =>
      obtain ⟨hanswer, hmoved⟩ := Zipper.previous?_part_none xs hposition hprevious
      exact ⟨congrArg _ hanswer.symm, .over hmoved hxs hnested hevaluations⟩
    | some moved =>
      obtain ⟨hanswer, hlist, hmoved⟩ := Zipper.previous?_part hpart hposition hprevious
      exact ⟨congrArg _ hanswer.symm, .over hmoved (hlist ▸ hxs) hnested hevaluations⟩
  | reset => exact ⟨rfl, .over rfl hxs hnested hevaluations⟩

/-! ## Kept values -/

/-- A cursor gives some values one after the other, and then says that there are no more. -/
inductive Yields (f : Forest) : Cursor → List Value → Prop
  | ended {c : Cursor} : (c.next f).1 = .ok none → Yields f c []
  | value {c : Cursor} {v : Value} {xs : List Value} : (c.next f).1 = .ok (some v) →
      Yields f (c.next f).2 xs → Yields f c (v :: xs)

/-- A cursor that was asked so often for its next value. -/
def askedFor (f : Forest) : Nat → Cursor → Cursor
  | 0, c => c
  | count + 1, c => askedFor f count (c.next f).2

theorem askedFor_succ (count : Nat) (c : Cursor) :
    c.askedFor f (count + 1) = ((c.askedFor f count).next f).2 := by
  induction count generalizing c with
  | zero => rfl
  | succ count ih => exact ih (c.next f).2

theorem Yields.next_askedFor {c : Cursor} (h : c.Yields f xs) {count : Nat}
    (hcount : count ≤ xs.length) : ((c.askedFor f count).next f).1 = .ok xs[count]? := by
  induction h generalizing count with
  | ended hnext =>
    obtain rfl : count = 0 := by simpa using hcount
    exact hnext
  | @value c v xs hnext _ ih =>
    cases count with
    | zero => exact hnext
    | succ count => exact ih (by simpa using hcount)

/-- The cursor that keeps the values of another has those up to the largest position there has
been, and has asked the other for no more, unless there was a move beyond the end. -/
inductive StandsKept (f : Forest) (inner : Cursor) (xs : List Value) (k : Mark) : Cursor → Prop
  | over {kept : Zipper Value} : kept.position = k.position → kept.toList = xs.take k.reached →
      k.reached ≤ xs.length → (k.ended = true → k.reached = xs.length) →
      StandsKept f inner xs k (.cached (inner.askedFor f k.asked) kept k.ended)

theorem next_cached_kept {inner : Cursor} {kept kept' : Zipper Value} {done : Bool} {v : Value}
    (h : kept.next? = some (v, kept')) :
    (cached inner kept done).next f = (.ok (some v), cached inner kept' done) := by
  simp [next, h]

theorem next_cached_done {inner : Cursor} {kept : Zipper Value} (h : kept.next? = none) :
    (cached inner kept true).next f = (.ok none, cached inner kept true) := by
  simp [next, h]

theorem next_cached_some {inner : Cursor} {kept : Zipper Value} {v : Value} (h : kept.next? = none)
    (hgiven : (inner.next f).1 = .ok (some v)) :
    (cached inner kept false).next f =
      (.ok (some v), cached (inner.next f).2 (kept.record v) false) := by
  have hmoved : inner.next f = (.ok (some v), (inner.next f).2) := Prod.ext hgiven rfl
  rw [next, h, hmoved]
  rfl

theorem next_cached_none {inner : Cursor} {kept : Zipper Value} (h : kept.next? = none)
    (hgiven : (inner.next f).1 = .ok none) :
    (cached inner kept false).next f = (.ok none, cached (inner.next f).2 kept true) := by
  have hmoved : inner.next f = (.ok none, (inner.next f).2) := Prod.ext hgiven rfl
  rw [next, h, hmoved]
  rfl

theorem next_cached_error {inner : Cursor} {kept : Zipper Value} {e : Error} (h : kept.next? = none)
    (hgiven : (inner.next f).1 = .error e) :
    (cached inner kept false).next f = (.error e, cached (inner.next f).2 kept false) := by
  have hmoved : inner.next f = (.error e, (inner.next f).2) := Prod.ext hgiven rfl
  rw [next, h, hmoved]
  rfl

/-- Where nothing kept is ahead, the other cursor is asked, and what it gives is kept. -/
theorem next_cached_end {inner : Cursor} (hinner : inner.Yields f xs) {k : Mark} {kept : Zipper Value}
    (hnext : kept.next? = none) (hposition : kept.position = k.position)
    (hlist : kept.toList = xs.take k.reached) (hreached : k.reached ≤ xs.length)
    (hend : k.position = k.reached) (hended : k.ended = false) :
    ((cached (inner.askedFor f k.asked) kept false).next f).1 = .ok xs[k.position]? ∧
    StandsKept f inner xs (k.after xs .next)
      ((cached (inner.askedFor f k.asked) kept false).next f).2 := by
  obtain ⟨position, reached, ended⟩ := k
  -- at the end of what is kept, the other cursor has been asked as often as there were moves on
  obtain rfl : position = reached := hend
  obtain rfl : ended = false := hended
  have hgiven : ((inner.askedFor f position).next f).1 = .ok xs[position]? :=
    hinner.next_askedFor hreached
  have hlength : kept.toList.length = position := by simp [hlist, List.length_take_of_le hreached]
  change ((cached (inner.askedFor f position) kept false).next f).1 = .ok xs[position]? ∧
    StandsKept f inner xs _ ((cached (inner.askedFor f position) kept false).next f).2
  cases hx : xs[position]? with
  | some v =>
    obtain ⟨hlt, -⟩ := List.getElem?_eq_some_iff.1 hx
    rw [next_cached_some hnext (hx ▸ hgiven), ← askedFor_succ]
    have hafter : Mark.after xs ⟨position, position, false⟩ .next =
        ⟨position + 1, position + 1, false⟩ := by
      simp [Mark.after, Move.target, hlt, Nat.ne_of_lt hlt]
    rw [hafter]
    refine ⟨rfl, .over ?_ ?_ hlt (by simp)⟩
    · rw [Zipper.position_record, hlength]
    · rw [Zipper.toList_record, hlist, List.take_add_one, hx]
      rfl
  | none =>
    have hle := List.getElem?_eq_none_iff.1 hx
    have hat : position = xs.length := Nat.le_antisymm hreached hle
    rw [next_cached_none hnext (hx ▸ hgiven), ← askedFor_succ]
    have hafter : Mark.after xs ⟨position, position, false⟩ .next = ⟨position, position, true⟩ := by
      simp [Mark.after, Move.target, hat]
    rw [hafter]
    exact ⟨rfl, .over hposition hlist hreached fun _ => hat⟩

theorem move_cached {inner : Cursor} (hinner : inner.Yields f xs) (k : Mark) (c : Cursor) (m : Move)
    (h : StandsKept f inner xs k c) :
    (c.move f m).1 = .ok (m.answer xs k.position) ∧
      StandsKept f inner xs (k.after xs m) (c.move f m).2 := by
  obtain ⟨hposition, hlist, hreached, hended⟩ := h
  rename_i kept
  have hpart : kept.toList <+: xs := hlist ▸ List.take_prefix _ _
  have hlength : kept.toList.length = k.reached := by simp [hlist, hreached]
  cases m with
  | next =>
    cases hnext : kept.next? with
    | some moved =>
      obtain ⟨hanswer, hlist', hmoved⟩ := Zipper.next?_part hpart hposition hnext
      have hkept := moved.2.position_le
      rw [hlist', hlength, hmoved] at hkept
      have hlt : k.position < xs.length := by
        obtain ⟨hlt, -⟩ := List.getElem?_eq_some_iff.1 hanswer
        exact hlt
      rw [move, next_cached_kept hnext, Mark.after_eq hkept (by omega)]
      exact ⟨congrArg _ hanswer.symm, .over hmoved (hlist'.trans hlist) hreached hended⟩
    | none =>
      have hend : k.position = k.reached :=
        hposition.symm.trans ((Zipper.next?_eq_none hnext).trans hlength)
      cases hk : k.ended with
      | true =>
        have hnone : xs[k.position]? = none := by simp [hend, hended hk]
        have htarget := Move.target_next_of_none hnone
        have htarget_le : Move.target xs k.position .next ≤ k.reached :=
          Nat.le_of_eq (htarget.trans hend)
        rw [move, next_cached_done hnext, Mark.after_eq htarget_le fun _ _ => hk]
        exact ⟨congrArg _ hnone.symm, hk ▸ .over (hposition.trans htarget.symm) hlist hreached hended⟩
      | false =>
        exact next_cached_end hinner hnext hposition hlist hreached hend hk
  | previous =>
    simp only [move, previous]
    cases hprevious : kept.previous? with
    | none =>
      obtain ⟨hanswer, hmoved⟩ := Zipper.previous?_part_none xs hposition hprevious
      have hkept := kept.position_le
      rw [Mark.after_eq (by omega) (by simp)]
      exact ⟨congrArg _ hanswer.symm, .over hmoved hlist hreached hended⟩
    | some moved =>
      obtain ⟨hanswer, hlist', hmoved⟩ := Zipper.previous?_part hpart hposition hprevious
      have hkept := moved.2.position_le
      rw [Mark.after_eq (by rw [hlist'] at hkept; omega) (by simp)]
      exact ⟨congrArg _ hanswer.symm, .over hmoved (hlist'.trans hlist) hreached hended⟩
  | reset =>
    rw [Mark.after_eq (Nat.zero_le _) (by simp)]
    exact ⟨rfl, .over rfl hlist hreached hended⟩

/-- A move is answered from what is kept: it is the same whatever cursor gives the values, and
leaves that cursor alone. -/
def Unasking (f : Forest) (kept : Zipper Value) (done : Bool) (m : Move) : Prop :=
  ∃ answer kept', ∀ inner, (cached inner kept done).move f m = (answer, cached inner kept' done)

theorem unasking_of_not_asks {k : Mark} {kept : Zipper Value} {m : Move}
    (hposition : kept.position = k.position) (hlength : kept.toList.length = k.reached)
    (hasks : ¬ k.asks m) : Unasking f kept k.ended m := by
  cases m with
  | next =>
    cases hnext : kept.next? with
    | some moved => exact ⟨_, _, fun inner => next_cached_kept hnext⟩
    | none =>
      have hend : k.position = k.reached :=
        hposition.symm.trans ((Zipper.next?_eq_none hnext).trans hlength)
      have hended : k.ended = true := by simpa [Mark.asks, hend] using hasks
      rw [hended]
      exact ⟨_, _, fun inner => next_cached_done hnext⟩
  | previous =>
    cases hprevious : kept.previous? with
    | some moved =>
      exact ⟨.ok (some moved.1), moved.2, fun inner => by simp [move, previous, hprevious]⟩
    | none => exact ⟨.ok none, kept, fun inner => by simp [move, previous, hprevious]⟩
  | reset => exact ⟨_, _, fun inner => rfl⟩

/-! ## The cursors that can go backward -/

/-- The cursors over listed values, over the kept values of another cursor, and over the kept
items of expressions answer every script of moves as a position in the list of the values does.
The one that keeps the values of another has asked it once for each value up to the largest
position there has been, and once more if there was a move beyond the end; it asks only in a
move to where there has been none. -/
theorem replays_as_list (f : Forest) (xs : List Value) (script : List Move) :
    ((ofSequence (.list xs)).play f script).1 = (Move.answers xs 0 script).map .ok ∧
    (∀ inner : Cursor, inner.Yields f xs →
      let k := script.foldl (Mark.after xs) {}
      ∃ kept, (cached inner {} false).play f script = ((Move.answers xs 0 script).map .ok,
          cached (inner.askedFor f k.asked) kept k.ended) ∧
        (cached (inner.askedFor f k.asked) kept k.ended).buffered? = some k.reached ∧
        ∀ m, ¬ k.asks m → Unasking f kept k.ended m) ∧
    ∀ es c, (Value.sequence (Sequence.ofExprs .cached es c)).flatten f = .ok xs →
      ((ofSequence (Sequence.ofExprs .cached es c)).play f script).1 =
        (Move.answers xs 0 script).map .ok := by
  refine ⟨?listed, ?kept, ?evaluated⟩
  case listed => exact (play_eq move_list script (k := {}) (.over rfl rfl)).1
  case kept =>
    intro inner hinner k
    have hstart : StandsKept f inner xs {} (cached inner {} false) :=
      .over rfl rfl (Nat.zero_le _) (by simp)
    obtain ⟨hanswers, hstands⟩ := play_eq (move_cached hinner) script hstart
    generalize hleft : ((cached inner {} false).play f script).2 = left at hstands
    obtain ⟨hposition, hlist, hreached, -⟩ := hstands
    rename_i kept
    have hlength : kept.toList.length = k.reached := by
      rw [hlist, List.length_take_of_le hreached]
    exact ⟨kept, Prod.ext hanswers hleft, congrArg some hlength,
      fun m => unasking_of_not_asks hposition hlength⟩
  case evaluated =>
    intro es c hitems
    have hstart : StandsEvaluated f xs {} (ofSequence (Sequence.ofExprs .cached es c)) :=
      .over rfl rfl rfl hitems
    exact (play_eq move_evaluated script hstart).1

/-- Two numbers, to the end and beyond and back. -/
theorem replays_as_list_pair :
    let xs : List Value := [.ofInt 1, .ofInt 2]
    let nested : Expr := .apply .sequence [some (.literal (.integer 2)), some (.apply .sequence [])]
    let es : List Expr := [.literal (.integer 1), nested]
    let script : List Move := [.previous, .next, .next, .next, .next, .previous, .reset, .next]
    let answers := [none, xs[0]?, xs[1]?, none, none, xs[1]?, none, xs[0]?].map Except.ok
    ((ofSequence (.list xs)).play default script).1 = answers ∧
    (∃ kept, (cached (ofRange 1 2) {} false).play default script =
        (answers, cached ((ofRange 1 2).askedFor default 3) kept true) ∧
      kept.toList.length = 2 ∧ ∀ m, Unasking default kept true m) ∧
    ((ofSequence (Sequence.ofExprs .cached es .standard)).play default script).1 = answers := by
  intro xs nested es script answers
  have hanswers : (Move.answers xs 0 script).map Except.ok = answers := rfl
  have hmark : script.foldl (Mark.after xs) {} = ⟨1, 2, true⟩ := by
    simp [script, xs, Mark.after, Move.target]
  have hyields : (ofRange 1 2).Yields default xs := .value rfl (.value rfl (.ended rfl))
  have hitems : (Value.sequence (Sequence.ofExprs .cached es .standard)).flatten default = .ok xs :=
    rfl
  obtain ⟨hlisted, hcached, hevaluated⟩ := replays_as_list default xs script
  rw [hanswers] at hlisted hcached hevaluated
  rw [hmark] at hcached
  obtain ⟨kept, hplay, hbuffered, hunasking⟩ := hcached (ofRange 1 2) hyields
  refine ⟨hlisted, ⟨kept, hplay, Option.some.inj hbuffered, fun m => ?_⟩,
    hevaluated es .standard hitems⟩
  exact hunasking m fun hasks => Bool.noConfusion hasks.2.2

end Cursor

end Grove

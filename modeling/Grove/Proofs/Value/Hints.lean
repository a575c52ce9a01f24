/-
Size hints. A cursor over listed values or over a range knows how many values lie ahead, and so does
one that keeps the values of such a cursor, wherever it stands in what it keeps; the others promise
nothing (`Cursor.Reached.counted_or_not`). A count is cut off at the largest machine word. That leaves
the lower bound one, but an upper bound that is cut off is none: it is too small for the range of all
machine integers, as long as nothing of it is passed, and for no other values
(`Cursor.sizeHint_bounds_iff`).

What carries the argument is what a counting cursor has of its sequence (`Cursor.Counted`): the values
ahead are an end of those of the sequence, and a cursor that keeps values has asked another for as
many of them as it keeps.
-/
import Grove.Proofs.Value.Walk

namespace Grove

/-! ## Ranges -/

namespace Value

@[simp] theorem length_integers (count : Nat) (i : Int) : (integers count i).length = count := by
  induction count generalizing i with
  | zero => rfl
  | succ count ih => exact congrArg (· + 1) (ih (i + 1))

/-- All machine integers in order. -/
def allIntegers : List Value := integers (Nat.pow 2 64) Int64.minValue.toInt

theorem flatten_range (f : Forest) (first last : Int64) :
    (Value.sequence (.range first last)).flatten f =
      .ok (integers (rangeSize first last) first.toInt) :=
  flatten_eq_ok_iff.2 rfl

/-- A range has no more integers than a machine word can count, or it has all of them. -/
theorem integers_range_cases (first last : Int64) :
    rangeSize first last ≤ Cursor.maxHint ∨
      integers (rangeSize first last) first.toInt = allIntegers := by
  have hfirst := first.le_toInt
  have hlast := last.toInt_lt
  have hmin : Int64.minValue.toInt = -2 ^ 63 := rfl
  have hmax : Cursor.maxHint = Nat.pow 2 64 - 1 := rfl
  have hwords : Nat.pow 2 64 = 18446744073709551616 := rfl
  by_cases hsize : rangeSize first last ≤ Cursor.maxHint
  · exact .inl hsize
  · have hends : rangeSize first last = Nat.pow 2 64 ∧ first.toInt = Int64.minValue.toInt := by
      unfold rangeSize at hsize ⊢
      omega
    exact .inr (congrArg₂ integers hends.1 hends.2)

end Value

theorem length_integersFrom (last : Int64) (i : Int64) :
    (integersFrom last (some i)).length = (last.toInt - i.toInt).toNat + 1 :=
  Value.length_integers _ _

theorem tail_integersFrom (last i : Int64) :
    (integersFrom last (some i)).tail = integersFrom last (Cursor.following last i) :=
  (integersFrom_following last i).symm

theorem le_of_following {last i j : Int64} (h : Cursor.following last i = some j) : j ≤ last := by
  rw [Cursor.following] at h
  split at h
  next hlt =>
    obtain rfl := Option.some.inj h
    rw [Int64.le_iff_toInt_le, Int64.toInt_succ hlt]
    exact Int64.lt_iff_toInt_lt.1 hlt
  next => cases h

theorem length_le_weightOfList (f : Forest) (vs : List Value) : vs.length ≤ weightOfList f vs := by
  induction vs with
  | nil => exact Nat.le_refl _
  | cons v vs ih =>
    have hone : 1 ≤ v.weight f := by
      cases v with
      | sequence s => exact Nat.le_add_right 1 _
      | _ => exact Nat.le_refl 1
    rw [List.length_cons, weightOfList]
    omega

/-- Whether the listed values of a sequence are no more than a machine word can count. -/
def Sequence.Countable : Sequence → Prop
  | .list items => items.length ≤ Cursor.maxHint
  | .cached inner => inner.Countable
  | _ => True
  termination_by structural s => s

namespace Cursor

variable {f : Forest} {ys xs : List Value} {c : Cursor}

/-! ## What a cursor counts -/

/-- The cursor counts its values: some of those of its sequence are ahead, the last ones. -/
inductive Counted (ys : List Value) : List Value → Cursor → Prop
  | list {items : Zipper Value} {xs : List Value} (hcountable : ys.length ≤ maxHint)
      (hys : items.toList = ys) (hxs : items.ahead = xs) : Counted ys xs (.list items)
  | range {first last : Int64} {next : Option Int64} {xs : List Value}
      (hys : Value.integers (rangeSize first last) first.toInt = ys) (hxs : integersFrom last next = xs)
      (hwithin : ∀ i, next = some i → i ≤ last) (hend : xs <:+ ys) : Counted ys xs (.range first last next)
  /-- What is kept was ahead of the other cursor when the first of it was asked for. -/
  | cached {inner : Cursor} {kept : Zipper Value} {done : Bool} {ws xs : List Value}
      (hinner : Counted ys ws inner) (hend : kept.toList ++ ws <:+ ys) (hdone : done = true → ws = [])
      (hxs : kept.ahead ++ ws = xs) : Counted ys xs (.cached inner kept done)

/-- The cursor does not know how many values it has. -/
inductive Uncounted : Cursor → Prop
  | evaluated {mode : SequenceMode} {evaluations : Zipper Evaluation} {nested : List Cursor}
      {kept : Zipper Value} : Uncounted (.evaluated mode evaluations nested kept)
  | nodes {walk : NodeWalk} {pending : List Nat} {started : Bool} :
      Uncounted (.nodes walk pending started)
  | cached {inner : Cursor} {kept : Zipper Value} {done : Bool} (hinner : Uncounted inner) :
      Uncounted (.cached inner kept done)

namespace Counted

theorem suffix (h : Counted ys xs c) : xs <:+ ys := by
  cases h with
  | list _ hys hxs => exact ⟨_, by rw [← hxs, ← hys]; rfl⟩
  | range _ _ _ hend => exact hend
  | @cached _ kept _ ws _ _ hend _ hxs =>
    refine List.IsSuffix.trans ⟨kept.passed.reverse, ?_⟩ hend
    rw [← hxs, ← List.append_assoc]
    rfl

/-- There are no more values than a machine word can count, or they are all machine integers. -/
theorem length_le_or (h : Counted ys xs c) : xs.length ≤ maxHint ∨ xs = Value.allIntegers := by
  have hys : ys.length ≤ maxHint ∨ ys = Value.allIntegers := by
    induction h with
    | list hcountable => exact .inl hcountable
    | range hys =>
      subst hys
      simpa using Value.integers_range_cases _ _
    | cached _ _ _ _ ih => exact ih
  have hlength := h.suffix.length_le
  rcases hys with hys | rfl
  · exact .inl (hlength.trans hys)
  · rcases Nat.lt_or_eq_of_le hlength with hlt | heq
    · rw [Value.allIntegers, Value.length_integers] at hlt
      exact .inl (Nat.le_pred_of_lt hlt)
    · exact .inr (h.suffix.eq_of_length heq)

/-! ## Moves -/

theorem next (h : Counted ys xs c) (f : Forest) :
    (c.next f).1 = .ok xs.head? ∧ Counted ys xs.tail (c.next f).2 := by
  induction h with
  | @list items xs hcountable hys hxs =>
    simp only [Cursor.next]
    cases hnext : items.next? with
    | none =>
      have hnil := Zipper.ahead_eq_nil hnext
      obtain rfl : [] = xs := hnil ▸ hxs
      exact ⟨rfl, .list hcountable hys hnil⟩
    | some moved =>
      obtain ⟨v, items'⟩ := moved
      obtain rfl : v :: items'.ahead = xs := Zipper.ahead_next? hnext ▸ hxs
      exact ⟨rfl, .list hcountable ((Zipper.toList_next? hnext).trans hys) rfl⟩
  | @range first last next xs hys hxs hwithin hend =>
    have htail : xs.tail <:+ ys := (List.tail_suffix xs).trans hend
    subst hxs
    cases next with
    | none => exact ⟨rfl, .range hys rfl (fun i hi => absurd hi (Option.some_ne_none i).symm) htail⟩
    | some i => exact ⟨rfl, .range hys (tail_integersFrom last i).symm (fun _ => le_of_following) htail⟩
  | @cached inner kept done ws xs hinner hend hdone hxs ih =>
    cases hnext : kept.next? with
    | some moved =>
      obtain ⟨v, kept'⟩ := moved
      obtain rfl : v :: (kept'.ahead ++ ws) = xs := by rw [← hxs, Zipper.ahead_next? hnext, List.cons_append]
      rw [next_cached_kept hnext]
      exact ⟨rfl, .cached hinner (Zipper.toList_next? hnext ▸ hend) hdone rfl⟩
    | none =>
      have hnil := Zipper.ahead_eq_nil hnext
      obtain rfl : ws = xs := by rwa [hnil, List.nil_append] at hxs
      cases done with
      | true =>
        obtain rfl := hdone rfl
        rw [next_cached_done hnext]
        exact ⟨rfl, .cached hinner hend hdone hxs⟩
      | false =>
        obtain ⟨hanswer, hmoved⟩ := ih
        cases ws with
        | nil =>
          rw [next_cached_none hnext hanswer]
          exact ⟨rfl, .cached hmoved hend (fun _ => rfl) hxs⟩
        | cons w ws =>
          rw [next_cached_some hnext hanswer]
          refine ⟨rfl, .cached hmoved ?_ (absurd · Bool.false_ne_true) rfl⟩
          rwa [Zipper.toList_record, List.append_assoc]

theorem reset (h : Counted ys xs c) : ∃ xs', Counted ys xs' c.reset := by
  cases h with
  | list hcountable hys _ => exact ⟨_, .list hcountable hys rfl⟩
  | @range first last _ _ hys =>
    have hall : integersFrom last (if first ≤ last then some first else none) = ys := by
      have hpending := pending_ofRange default first last
      rw [ofRange, pending, Sequence.outcomes] at hpending
      exact ((List.map_injective_iff.2 fun _ _ => Except.ok.inj) hpending).trans hys
    refine ⟨ys, .range hys hall (fun i hi => ?_) (List.suffix_refl ys)⟩
    obtain ⟨hle, hfirst⟩ := Option.ite_none_right_eq_some.1 hi
    exact Option.some.inj hfirst ▸ hle
  | cached hinner hend hdone _ => exact ⟨_, .cached hinner hend hdone rfl⟩

theorem previous (h : Counted ys xs c) : ∃ xs', Counted ys xs' c.previous.2 := by
  cases h with
  | @list items _ hcountable hys hxs =>
    simp only [Cursor.previous]
    cases hprevious : items.previous? with
    | none => exact ⟨_, .list hcountable hys hxs⟩
    | some moved => exact ⟨_, .list hcountable ((Zipper.toList_previous? hprevious).trans hys) rfl⟩
  | range hys hxs hwithin hend => exact ⟨_, .range hys hxs hwithin hend⟩
  | @cached inner kept _ _ _ hinner hend hdone hxs =>
    simp only [Cursor.previous]
    cases hprevious : kept.previous? with
    | none => exact ⟨_, .cached hinner hend hdone hxs⟩
    | some moved => exact ⟨_, .cached hinner (Zipper.toList_previous? hprevious ▸ hend) hdone rfl⟩

theorem move (h : Counted ys xs c) (f : Forest) (m : Move) : ∃ xs', Counted ys xs' (c.move f m).2 := by
  cases m with
  | next => exact ⟨_, (h.next f).2⟩
  | previous => exact h.previous
  | reset => exact h.reset

/-! ## Draining -/

theorem yields (h : Counted ys xs c) (f : Forest) : c.Yields f xs := by
  induction xs generalizing c with
  | nil => exact .ended (h.next f).1
  | cons x xs ih => exact .value (h.next f).1 (ih (h.next f).2)

theorem length_le_weight (h : Counted ys xs c) (f : Forest) : xs.length ≤ c.weight f := by
  induction h with
  | list _ _ hxs =>
    subst hxs
    exact length_le_weightOfList f _
  | @range first last next _ _ hxs hwithin _ =>
    subst hxs
    cases next with
    | none => exact Nat.le_refl _
    | some i =>
      have hle := Int64.le_iff_toInt_le.1 (hwithin i rfl)
      rw [length_integersFrom, weight, Option.map_some, Option.getD_some, rangeSize]
      omega
  | cached _ _ _ hxs ih =>
    have hkept := length_le_weightOfList f
    subst hxs
    rw [List.length_append, weight]
    exact Nat.add_le_add (hkept _) ih

theorem drain (h : Counted ys xs c) (f : Forest) : (c.drain f).1 = .ok xs := by
  rw [(h.yields f).drain_eq (h.length_le_weight f)]

/-! ## Hints -/

/-- The lower bound is one, and so is the upper bound as far as a machine word can tell. -/
theorem sizeHint (h : Counted ys xs c) : ∃ low high, c.sizeHint = (low, some high) ∧
    low ≤ xs.length ∧ min xs.length maxHint ≤ high ∧ high ≤ maxHint := by
  induction h with
  | @list items xs hcountable hys hxs =>
    subst hys hxs
    have hlength : items.ahead.length ≤ items.toList.length := by simp [Zipper.toList]
    exact ⟨_, _, rfl, Nat.le_refl _, Nat.min_le_left .., hlength.trans hcountable⟩
  | @range first last next xs hys hxs hwithin hend =>
    subst hxs
    cases next with
    | none => exact ⟨0, 0, rfl, Nat.le_refl _, Nat.min_le_left .., Nat.zero_le _⟩
    | some i =>
      have hle := Int64.le_iff_toInt_le.1 (hwithin i rfl)
      have hcount : (last.toInt - i.toInt).natAbs + 1 = (integersFrom last (some i)).length := by
        rw [length_integersFrom]
        omega
      rw [Cursor.sizeHint, hcount]
      exact ⟨_, _, rfl, Nat.min_le_left .., Nat.le_refl _, Nat.min_le_right ..⟩
  | @cached inner kept done ws xs hinner hend hdone hxs ih =>
    obtain ⟨low, high, hhint, hlow, hhigh, -⟩ := ih
    have hkept : kept.ahead.length ≤ kept.toList.length := by simp [Zipper.toList]
    have hlength : xs.length = kept.ahead.length + ws.length := by rw [← hxs, List.length_append]
    refine ⟨low, min (high + kept.toList.length) maxHint, ?_, by omega, by omega, Nat.min_le_right ..⟩
    simp only [Cursor.sizeHint, hhint, Option.map_some]

end Counted

/-! ## The cursors that do not count -/

namespace Uncounted

theorem sizeHint (h : Uncounted c) : c.sizeHint = (0, none) := by
  induction h with
  | evaluated => rfl
  | nodes => rfl
  | cached _ ih => simp only [Cursor.sizeHint, ih, Option.map_none]

theorem of_foundNested (mode : SequenceMode) (evaluations : Zipper Evaluation) (nested : List Cursor)
    (kept : Zipper Value) (outcome : Except Error (Option Value)) :
    Uncounted (foundNested mode evaluations nested kept outcome).cursor := by
  unfold foundNested
  split <;> exact .evaluated

theorem next (h : Uncounted c) (f : Forest) : Uncounted (c.next f).2 := by
  induction h with
  | @evaluated mode evaluations nested kept =>
    by_cases hkept : mode.replayed kept = []
    · obtain ⟨evaluations', nested', hseek, -⟩ :=
        seek_evaluated_eq evaluations hkept (finds_seekInStack f nested)
      simp only [Cursor.next, hseek]
      exact of_foundNested ..
    · cases mode with
      | forwardOnly => exact absurd rfl hkept
      | cached =>
        cases hnext : kept.next? with
        | none => exact absurd (Zipper.ahead_eq_nil hnext) hkept
        | some moved =>
          rw [next_evaluated_kept hnext]
          exact .evaluated
  | @nodes walk pending started =>
    simp only [Cursor.next, seek, nextNode]
    split <;> exact .nodes
  | @cached inner kept done hinner ih =>
    cases hnext : kept.next? with
    | some moved =>
      rw [next_cached_kept hnext]
      exact .cached hinner
    | none =>
      cases done with
      | true =>
        rw [next_cached_done hnext]
        exact .cached hinner
      | false =>
        rcases hgiven : (inner.next f).1 with e | _ | v
        · rw [next_cached_error hnext hgiven]
          exact .cached ih
        · rw [next_cached_none hnext hgiven]
          exact .cached ih
        · rw [next_cached_some hnext hgiven]
          exact .cached ih

theorem move (h : Uncounted c) (f : Forest) (m : Move) : Uncounted (c.move f m).2 := by
  cases m with
  | next => exact h.next f
  | previous =>
    cases h with
    | @evaluated mode =>
      cases mode with
      | forwardOnly => exact .evaluated
      | cached =>
        simp only [Cursor.move, previous]
        split <;> exact .evaluated
    | nodes => exact .nodes
    | cached hinner =>
      simp only [Cursor.move, previous]
      split <;> exact .cached hinner
  | reset =>
    cases h with
    | @evaluated mode => cases mode <;> exact .evaluated
    | nodes => exact .nodes
    | cached hinner => exact .cached hinner

end Uncounted

/-! ## What moves can lead to -/

/-- The cursors that can be reached: those at the start of a sequence, those that keep the values of
another from where it is, and those that were moved, whatever has become of the forest in between. -/
inductive Reached : Cursor → Prop
  | start {s : Sequence} : s.Countable → Reached (ofSequence s)
  | keep {c : Cursor} : Reached c → Reached (.cached c {} false)
  | move {c : Cursor} (f : Forest) (m : Move) : Reached c → Reached (c.move f m).2

/-- A cursor at the start either counts the values of its sequence or not. -/
theorem counted_or_not_start : ∀ {s : Sequence}, s.Countable →
    (∃ ys xs, Counted ys xs (ofSequence s)) ∨ Uncounted (ofSequence s)
  | .list items, hcountable => .inl ⟨items, items, .list hcountable rfl rfl⟩
  | .range first last, _ => by
    have hended : Counted _ [] (.range first last none) := .range rfl rfl nofun (List.nil_suffix)
    obtain ⟨xs, hstart⟩ := hended.reset
    exact .inl ⟨_, xs, hstart⟩
  | .cached inner, hcountable => by
    rcases counted_or_not_start (s := inner) hcountable with ⟨ys, xs, hinner⟩ | hinner
    · exact .inl ⟨ys, xs, .cached hinner hinner.suffix nofun rfl⟩
    · exact .inr (.cached hinner)
  | .evaluated _ _, _ => .inr .evaluated
  | .nodes _, _ => .inr .nodes

theorem Reached.counted_or_not (h : c.Reached) : (∃ ys xs, Counted ys xs c) ∨ Uncounted c := by
  induction h with
  | start hcountable => exact counted_or_not_start hcountable
  | keep _ ih =>
    rcases ih with ⟨ys, xs, hinner⟩ | hinner
    · exact .inl ⟨ys, xs, .cached hinner hinner.suffix nofun rfl⟩
    · exact .inr (.cached hinner)
  | move f m _ ih =>
    rcases ih with ⟨ys, xs, hbefore⟩ | hbefore
    · exact .inl ⟨ys, hbefore.move f m⟩
    · exact .inr (hbefore.move f m)

/-- The values that are drained are as many as the hint says: at least as many as its lower bound, and
at most as many as its upper bound, if it has one, unless these are all machine integers. -/
theorem sizeHint_bounds_iff (hc : c.Reached) (hdrain : (c.drain f).1 = .ok xs) :
    c.sizeHint.1 ≤ xs.length ∧ ∀ high, c.sizeHint.2 = some high → (xs.length ≤ high ↔
      (Value.sequence (.range Int64.minValue Int64.maxValue)).flatten f ≠ .ok xs) := by
  rcases hc.counted_or_not with ⟨ys, ahead, hcounted⟩ | huncounted
  · obtain rfl : ahead = xs := Except.ok.inj ((hcounted.drain f).symm.trans hdrain)
    obtain ⟨low, high, hhint, hlow, hhigh, hmax⟩ := hcounted.sizeHint
    rw [hhint]
    refine ⟨hlow, fun _ heq => ?_⟩
    obtain rfl := Option.some.inj heq
    have hall : (Value.sequence (.range Int64.minValue Int64.maxValue)).flatten f =
        .ok Value.allIntegers := Value.flatten_range ..
    rw [hall, ne_eq, Except.ok.injEq]
    rcases hcounted.length_le_or with hlength | rfl
    · rw [Nat.min_eq_left hlength] at hhigh
      refine iff_of_true hhigh ?_
      rintro rfl
      rw [Value.allIntegers, Value.length_integers] at hlength
      exact absurd hlength (by decide)
    · refine iff_of_false (fun hle => ?_) (not_not_intro rfl)
      rw [Value.allIntegers, Value.length_integers] at hle
      exact absurd (hle.trans hmax) (by decide)
  · rw [huncounted.sizeHint]
    exact ⟨Nat.zero_le _, nofun⟩

/-- Three integers of which two are kept, from the start again. -/
theorem sizeHint_bounds_iff_kept :
    let c := ((ofSequence (.cached (.range 1 3))).play default [.next, .next, .reset]).2
    let xs : List Value := [.ofInt 1, .ofInt 2, .ofInt 3]
    c.Reached ∧ (c.drain default).1 = .ok xs ∧ c.sizeHint = (1, some 3) ∧ 1 ≤ xs.length ∧
      (xs.length ≤ 3 ↔
        (Value.sequence (.range Int64.minValue Int64.maxValue)).flatten default ≠ .ok xs) := by
  intro c xs
  have hstart : (ofSequence (.cached (.range 1 3))).Reached := .start trivial
  have hc : c.Reached := ((hstart.move default .next).move default .next).move default .reset
  have hdrain : (c.drain default).1 = .ok xs := rfl
  obtain ⟨hlow, hhigh⟩ := sizeHint_bounds_iff hc hdrain
  exact ⟨hc, hdrain, rfl, hlow, hhigh 3 rfl⟩

/-- The range of all machine integers has one more than its hint says. -/
theorem sizeHint_short_of_all :
    let c := ofRange Int64.minValue Int64.maxValue
    c.Reached ∧ (c.drain default).1 = .ok Value.allIntegers ∧
      Value.allIntegers.length = 18446744073709551616 ∧
      c.sizeHint = (18446744073709551615, some 18446744073709551615) := by
  intro c
  have hcounted : Counted Value.allIntegers Value.allIntegers c :=
    .range rfl rfl (fun i hi => Option.some.inj hi ▸ by decide) (List.suffix_refl _)
  exact ⟨.start (s := .range Int64.minValue Int64.maxValue) trivial, hcounted.drain default,
    Value.length_integers .., by decide⟩

end Cursor

end Grove

/-
What is pending at a cursor: the outcomes that `seek` comes to from there on, nested sequences
included. `seek` answers with the first of them, a failure as well as an item, and leaves the
others pending at the cursors that are open then (`Cursor.finds_seek`); at the start of a
sequence all its outcomes are pending (`Sequence.finds_seek`).

The argument is by recursion on values and sequences for what is entered, and on cursors for
what is open already; walks over nodes go by the number of nodes that are left.
-/
import Grove.Proofs.Value.Outcomes
import Grove.Value.Cursor

namespace Grove

/-- The answer of a look that comes to some outcomes: the first of them, or that there is none. -/
def firstOutcome {α ε : Type} : List (Except ε α) → Except ε (Option α)
  | [] => .ok none
  | r :: _ => r.map some

theorem firstOutcome_map {α β ε : Type} (g : α → β) (rs : List (Except ε α)) :
    firstOutcome (rs.map (·.map g)) = (firstOutcome rs).map (·.map g) := by
  cases rs with
  | nil => rfl
  | cons r rs => cases r <;> rfl

theorem firstOutcome_map_ok {α ε : Type} (xs : List α) :
    firstOutcome (xs.map (Except.ok : α → Except ε α)) = .ok xs.head? := by
  cases xs <;> rfl

/-! ## Walks over nodes -/

namespace Tree

variable {t : Tree} {accepts : Nat → Except Error Bool}

/-- A look for an accepted node answers with the first of the given outcomes, and leaves the
subtrees of the others. -/
structure Looks (t : Tree) (accepts : Nat → Except Error Bool)
    (r : Except Error (Option Nat) × List Nat) (rs : List (Except Error Nat)) : Prop where
  found : r.1 = firstOutcome rs
  rest : (r.2.flatMap t.subtree).filterMap (accepted? accepts) = rs.tail

theorem looks_firstFound {α : Type} {number : α → Nat}
    {look : α → Except Error (Option Nat) × List Nat} {as : List α}
    (hlook : ∀ a ∈ as,
      t.Looks accepts (look a) ((t.subtree (number a)).filterMap (accepted? accepts))) :
    t.Looks accepts (firstFound number look as)
      (((as.map number).flatMap t.subtree).filterMap (accepted? accepts)) := by
  induction as with
  | nil => exact ⟨rfl, rfl⟩
  | cons a as ih =>
    obtain ⟨hfound, hrest⟩ := hlook a (by simp)
    have hothers := ih (fun b hb => hlook b (by simp [hb]))
    rw [List.map_cons, List.flatMap_cons, List.filterMap_append, firstFound]
    generalize look a = looked at hfound hrest
    generalize (t.subtree (number a)).filterMap (accepted? accepts) = rs at hfound hrest
    obtain ⟨found, left⟩ := looked
    cases rs with
    | nil =>
      obtain rfl : found = .ok none := hfound
      exact hothers
    | cons r rs =>
      have hleft : ((left ++ as.map number).flatMap t.subtree).filterMap (accepted? accepts) =
          rs ++ ((as.map number).flatMap t.subtree).filterMap (accepted? accepts) := by
        rw [List.flatMap_append, List.filterMap_append]
        exact congrArg (· ++ _) hrest
      obtain rfl : found = r.map some := hfound
      cases r with
      | error e => exact ⟨rfl, hleft⟩
      | ok i => exact ⟨rfl, hleft⟩

theorem looks_firstAccepted (i : Nat) :
    t.Looks accepts (t.firstAccepted accepts i) ((t.subtree i).filterMap (accepted? accepts)) := by
  rw [subtree, firstAccepted, List.filterMap_cons, accepted?]
  have hbelow : (t.laterChildren i).attach.flatMap (fun c => t.subtree c.val) =
      (t.laterChildren i).flatMap t.subtree := by simp
  cases accepts i with
  | error e => exact ⟨rfl, by rw [hbelow]; rfl⟩
  | ok shown =>
    cases shown with
    | true => exact ⟨rfl, by rw [hbelow]; rfl⟩
    | false =>
      have hchildren : t.Looks accepts
          (firstFound (·.val) (fun c => t.firstAccepted accepts c.val) (t.laterChildren i).attach)
          ((((t.laterChildren i).attach.map (·.val)).flatMap t.subtree).filterMap (accepted? accepts)) :=
        looks_firstFound fun c _ => looks_firstAccepted c.val
      rwa [List.flatMap_map] at hchildren
termination_by t.size - i
decreasing_by
  have := mem_laterChildren c.property
  omega

/-- The nodes of several subtrees, visited in turn. -/
theorem looks_inTurn (t : Tree) (accepts : Nat → Except Error Bool) (is : List Nat) :
    t.Looks accepts (firstFound id (t.firstAccepted accepts) is)
      ((is.flatMap t.subtree).filterMap (accepted? accepts)) := by
  have hlooks : t.Looks accepts (firstFound id (t.firstAccepted accepts) is)
      (((is.map id).flatMap t.subtree).filterMap (accepted? accepts)) :=
    looks_firstFound fun i _ => looks_firstAccepted i
  rwa [List.map_id] at hlooks

end Tree

/-! ## What is pending -/

/-- What is ahead in the kept items of evaluated expressions. -/
def SequenceMode.replayed (mode : SequenceMode) (kept : Zipper Value) : List Value :=
  match mode with
  | .cached => kept.ahead
  | .forwardOnly => []

/-- The integers ahead in a range. -/
def integersFrom (last : Int64) : Option Int64 → List Value
  | none => []
  | some i => Value.integers ((last.toInt - i.toInt).toNat + 1) i.toInt

/-- The outcomes of showing what is left of a walk. -/
def NodeWalk.remaining (w : NodeWalk) (f : Forest) (pending : List Nat) (started : Bool) :
    List Outcome :=
  if started then w.outcomesAmong (f.model w.model) (pending.flatMap (f.model w.model).tree.subtree)
  else w.outcomes f

mutual

/-- The outcomes pending at a cursor. -/
def Cursor.pending (f : Forest) : Cursor → List Outcome
  | .list items => outcomesOfList f items.ahead
  | .range _ last next => (integersFrom last next).map .ok
  | .cached inner kept done => outcomesOfList f kept.ahead ++ if done then [] else inner.pending f
  | .evaluated mode evaluations nested kept => (mode.replayed kept).map .ok ++
      (pendingOfStack f nested ++ outcomesOfEvaluations f evaluations.ahead)
  | .nodes walk left started => walk.remaining f left started
  termination_by structural c => c

/-- The outcomes pending at a stack of cursors. -/
def pendingOfStack (f : Forest) : List Cursor → List Outcome
  | [] => []
  | top :: rest => top.pending f ++ pendingOfStack f rest
  termination_by structural cs => cs

end

/-- A look answers with the first of the given outcomes, and leaves the others, and those behind,
pending at the cursors that are open then. -/
structure Seek.Finds (f : Forest) (found : Seek) (rs behind : List Outcome) : Prop where
  outcome : found.outcome = firstOutcome rs
  pending : pendingOfStack f (found.opened ++ [found.cursor]) = rs.tail ++ behind

@[simp] theorem pendingOfStack_append (f : Forest) (cs ds : List Cursor) :
    pendingOfStack f (cs ++ ds) = pendingOfStack f cs ++ pendingOfStack f ds := by
  induction cs with
  | nil => rfl
  | cons c cs ih => simp [pendingOfStack, ih]

@[simp] theorem pendingOfStack_singleton (f : Forest) (c : Cursor) :
    pendingOfStack f [c] = c.pending f := by
  simp [pendingOfStack]

/-- A look that opens nothing. -/
theorem Seek.Finds.single {f : Forest} {found : Seek} {rs behind : List Outcome}
    (houtcome : found.outcome = firstOutcome rs) (hopened : found.opened = [])
    (hpending : found.cursor.pending f = rs.tail ++ behind) : found.Finds f rs behind :=
  ⟨houtcome, by rw [hopened, List.nil_append, pendingOfStack_singleton, hpending]⟩

/-! ## Single moves -/

theorem Int64.toInt_succ {i last : Int64} (h : i < last) : (i + 1).toInt = i.toInt + 1 := by
  have hi := Int64.lt_iff_toInt_lt.1 h
  have hlast := last.toInt_lt
  have hlow := i.le_toInt
  have hone : (1 : Int64).toInt = 1 := rfl
  rw [Int64.toInt_add, hone]
  apply Int.bmod_eq_of_le <;> omega

theorem integersFrom_following (last i : Int64) :
    integersFrom last (Cursor.following last i) =
      Value.integers (last.toInt - i.toInt).toNat (i.toInt + 1) := by
  rw [Cursor.following]
  split
  next hlt =>
    have hlt' := Int64.lt_iff_toInt_lt.1 hlt
    have hcount : (last.toInt - (i.toInt + 1)).toNat + 1 = (last.toInt - i.toInt).toNat := by omega
    rw [integersFrom, Int64.toInt_succ hlt, hcount]
  next hge =>
    rw [Int64.lt_iff_toInt_lt] at hge
    have hnone : (last.toInt - i.toInt).toNat = 0 := by omega
    rw [hnone]
    rfl

theorem NodeWalk.advance_eq (w : NodeWalk) (f : Forest) (left : List Nat) :
    (w.advance f left).1.map (·.map Value.node) = firstOutcome (w.remaining f left true) ∧
    w.remaining f (w.advance f left).2 true = (w.remaining f left true).tail := by
  obtain ⟨hfound, hrest⟩ := (f.model w.model).tree.looks_inTurn
    (fun i => w.accepts (f.model w.model) ((f.model w.model).handle i)) left
  simp only [remaining, if_true, outcomesAmong, ← List.map_tail, ← hrest, firstOutcome_map, ← hfound,
    advance]
  refine ⟨?_, trivial⟩
  generalize firstFound id _ _ = looked
  obtain ⟨found, _⟩ := looked
  cases found with
  | error e => rfl
  | ok found => cases found <;> rfl

/-- The root is the first node of a walk. -/
theorem NodeWalk.enter_eq (w : NodeWalk) (f : Forest) :
    (w.enter f).1.map (·.map Value.node) = firstOutcome (w.outcomes f) ∧
    w.remaining f (w.enter f).2 true = (w.outcomes f).tail := by
  rw [enter, outcomes]
  cases (f.model w.model).locate w.root with
  | error e => exact ⟨rfl, rfl⟩
  | ok i =>
    have hroot : w.remaining f [i] true =
        w.outcomesAmong (f.model w.model) ((f.model w.model).tree.subtree i) := by
      simp [remaining]
    dsimp only
    rw [← hroot]
    exact w.advance_eq f [i]

/-- A walk comes to the first of what is left of it, wherever in it this is. -/
theorem NodeWalk.moved_eq (w : NodeWalk) (f : Forest) (left : List Nat) (started : Bool) :
    (if started then w.advance f left else w.enter f).1.map (·.map Value.node) =
      firstOutcome (w.remaining f left started) ∧
    w.remaining f (if started then w.advance f left else w.enter f).2 true =
      (w.remaining f left started).tail := by
  cases started with
  | true => exact w.advance_eq f left
  | false => exact w.enter_eq f

namespace Cursor

theorem finds_nextNode (f : Forest) (w : NodeWalk) (left : List Nat) (started : Bool) :
    (nextNode f w left started).Finds f (w.remaining f left started) [] := by
  have hmoved := w.moved_eq f left started
  unfold nextNode
  generalize (if started then w.advance f left else w.enter f) = moved at hmoved ⊢
  obtain ⟨found, rest⟩ := moved
  obtain ⟨hfound, hrest⟩ := hmoved
  have hpending : (Cursor.nodes w rest true).pending f = (w.remaining f left started).tail ++ [] := by
    rw [List.append_nil]
    exact hrest
  cases found with
  | error e => exact .single hfound rfl hpending
  | ok found => cases found <;> exact .single hfound rfl hpending

theorem finds_nextInRange (f : Forest) (first last : Int64) (next : Option Int64) :
    (nextInRange first last next).Finds f ((integersFrom last next).map .ok) [] := by
  cases next with
  | none => exact .single rfl rfl rfl
  | some i =>
    refine .single rfl rfl ?_
    simp only [nextInRange, pending, integersFrom_following, List.append_nil]
    rfl

end Cursor

/-! ## Evaluated expressions -/

/-- An item that is found in nested sequences is kept, and the position is behind it. -/
theorem finds_foundNested {f : Forest} {mode : SequenceMode} {evaluations : Zipper Evaluation}
    {nested : List Cursor} {kept : Zipper Value} {rs : List Outcome} (hkept : mode.replayed kept = [])
    (hrest : pendingOfStack f nested ++ outcomesOfEvaluations f evaluations.ahead = rs.tail) :
    (Cursor.foundNested mode evaluations nested kept (firstOutcome rs)).Finds f rs [] := by
  cases rs with
  | nil => exact .single rfl rfl (by simp [Cursor.foundNested, firstOutcome, Cursor.pending, hkept, hrest])
  | cons r rs =>
    cases r with
    | error e =>
      exact .single rfl rfl
        (by simp [Cursor.foundNested, firstOutcome, Except.map, Cursor.pending, hkept, hrest])
    | ok v =>
      cases mode <;> exact .single rfl rfl
        (by simp [Cursor.foundNested, firstOutcome, Except.map, Cursor.pending, hrest,
          SequenceMode.replayed, Zipper.record])

/-! ## Entering values and sequences -/

theorem Zipper.ahead_recordAll {α : Type} (z : Zipper α) (h : z.ahead = []) (xs : List α) :
    (z.recordAll xs).ahead = [] := by
  induction xs generalizing z with
  | nil => exact h
  | cons x xs ih => exact ih (z.record x) rfl

theorem Value.outcomes_of_seek {f : Forest} {v : Value} (h : v.seek f = none) :
    v.outcomes f = [.ok v] := by
  cases v with
  | sequence s => simp [Value.seek] at h
  | _ => rfl

/-- What is found in another cursor is kept. -/
theorem finds_cached {f : Forest} {found : Seek} {rs : List Outcome} (h : found.Finds f rs [])
    {kept : Zipper Value} (hkept : kept.ahead = []) (pulled : List Value) :
    ({ found with cursor := .cached found.cursor kept found.atEnd, pulled } : Seek).Finds f rs [] := by
  obtain ⟨houtcome, hpending⟩ := h
  refine ⟨houtcome, ?_⟩
  rw [← hpending, pendingOfStack_append, pendingOfStack_append, pendingOfStack_singleton,
    pendingOfStack_singleton, Cursor.pending, hkept]
  cases rs with
  | cons r rs =>
    have hopen : found.atEnd = false := by cases r <;> simp [Seek.atEnd, houtcome, firstOutcome, Except.map]
    rw [hopen]
    rfl
  | nil =>
    -- at the end nothing was pending at the other cursor either
    have hend : found.atEnd = true := by simp [Seek.atEnd, houtcome, firstOutcome]
    obtain ⟨-, hnone⟩ : pendingOfStack f found.opened = [] ∧ found.cursor.pending f = [] := by
      simpa using hpending
    rw [hend, hnone]
    rfl

theorem Cursor.pending_ofRange (f : Forest) (first last : Int64) :
    (ofRange first last).pending f = (Sequence.range first last).outcomes f := by
  rw [ofRange, pending, Sequence.outcomes]
  by_cases hle : first ≤ last
  · rw [if_pos hle, integersFrom]
    have hle' := Int64.le_iff_toInt_le.1 hle
    have hcount : (last.toInt - first.toInt).toNat + 1 = rangeSize first last := by
      unfold rangeSize
      omega
    rw [hcount]
  · rw [Int64.le_iff_toInt_le] at hle
    have hnone : rangeSize first last = 0 := by
      unfold rangeSize
      omega
    rw [if_neg (by rwa [Int64.le_iff_toInt_le]), hnone]
    rfl

mutual

theorem Value.finds_seek (f : Forest) : ∀ (v : Value) (found : Seek), v.seek f = some found →
    found.Finds f (v.outcomes f) []
  | .sequence s, found, hseek => by
    obtain rfl : s.seek f = found := Option.some_inj.1 hseek
    exact s.finds_seek f
  | .string _, _, hseek => by simp [Value.seek] at hseek
  | .number _, _, hseek => by simp [Value.seek] at hseek
  | .boolean _, _, hseek => by simp [Value.seek] at hseek
  | .node _, _, hseek => by simp [Value.seek] at hseek
  termination_by structural v => v

theorem Sequence.finds_seek (f : Forest) : ∀ s : Sequence, (s.seek f).Finds f (s.outcomes f) []
  | .list items => finds_seekInList f items .list [] [] [] fun _ => (List.append_nil _).symm
  | .range first last => by
    rw [← Cursor.pending_ofRange]
    exact Cursor.finds_nextInRange f first last _
  | .cached inner => finds_cached (inner.finds_seek f) (Zipper.ahead_recordAll {} rfl _) _
  | .evaluated mode evaluations => by
    obtain ⟨evaluations', nested, heq, hrest, -⟩ := seekInEvaluations_eq f mode evaluations [] {}
    rw [Sequence.seek, heq]
    exact finds_foundNested (by cases mode <;> rfl) hrest
  | .nodes walk => Cursor.finds_nextNode f walk [] false
  termination_by structural s => s

theorem finds_seekInList (f : Forest) : ∀ (vs : List Value) (rebuild : Zipper Value → Cursor)
    (passed pulled : List Value) (behind : List Outcome),
    (∀ z, (rebuild z).pending f = outcomesOfList f z.ahead ++ behind) →
    (seekInList f rebuild passed pulled vs).Finds f (outcomesOfList f vs) behind
  | [], rebuild, passed, pulled, behind, hrebuild => .single rfl rfl (hrebuild _)
  | v :: vs, rebuild, passed, pulled, behind, hrebuild => by
    have hrest := finds_seekInList f vs rebuild (v :: passed) (pulled ++ [v]) behind hrebuild
    have hafter := hrebuild ⟨v :: passed, vs⟩
    rw [seekInList, outcomesOfList]
    cases hseek : v.seek f with
    | none =>
      rw [Value.outcomes_of_seek hseek]
      exact .single rfl rfl hafter
    | some found =>
      obtain ⟨houtcome, hpending⟩ := v.finds_seek f found hseek
      cases hrs : v.outcomes f with
      | nil =>
        rw [hrs] at houtcome
        simp only [houtcome, firstOutcome]
        exact hrest
      | cons r rs =>
        rw [hrs] at houtcome hpending
        have hopen : pendingOfStack f (found.opened ++ [found.cursor] ++ [rebuild ⟨v :: passed, vs⟩]) =
            (r :: (rs ++ outcomesOfList f vs)).tail ++ behind := by
          rw [pendingOfStack_append, hpending, pendingOfStack_singleton, hafter]
          simp
        cases r <;> simp only [houtcome, firstOutcome, Except.map] <;> exact ⟨rfl, hopen⟩
  termination_by structural vs => vs

theorem finds_seekInOutcome (f : Forest) : ∀ (r : Except Error Value) (found : Seek),
    seekInOutcome f r = some found → found.Finds f (outcomesOfResult f r) []
  | .ok v, found, hseek => v.finds_seek f found hseek
  | .error _, _, hseek => by simp [seekInOutcome] at hseek
  termination_by structural r => r

theorem seekInEvaluations_eq (f : Forest) (mode : SequenceMode) :
    ∀ (evaluations : List (Forest → Except Error Value)) (passed : List Evaluation)
      (kept : Zipper Value),
    ∃ evaluations' nested, seekInEvaluations f mode passed kept evaluations =
        Cursor.foundNested mode evaluations' nested kept
          (firstOutcome (outcomesOfEvaluations f evaluations)) ∧
      pendingOfStack f nested ++ outcomesOfEvaluations f evaluations'.ahead =
        (outcomesOfEvaluations f evaluations).tail ∧
      evaluations'.toList = passed.reverse ++ evaluations
  | [], passed, kept => ⟨⟨passed, []⟩, [], rfl, rfl, rfl⟩
  | x :: evaluations, passed, kept => by
    have hlist : (Zipper.mk (x :: passed) evaluations).toList = passed.reverse ++ x :: evaluations := by
      simp [Zipper.toList]
    rw [seekInEvaluations, outcomesOfEvaluations]
    cases hseek : seekInOutcome f (x f) with
    | none =>
      refine ⟨⟨x :: passed, evaluations⟩, [], ?_, ?_, hlist⟩
      all_goals
        cases hx : x f with
        | error e => rfl
        | ok v =>
          rw [hx] at hseek
          rw [outcomesOfResult, Value.outcomes_of_seek hseek]
          rfl
    | some found =>
      obtain ⟨houtcome, hpending⟩ := finds_seekInOutcome f (x f) found hseek
      cases hrs : outcomesOfResult f (x f) with
      | nil =>
        rw [hrs] at houtcome
        obtain ⟨evaluations', nested, heq, hrest, hlist'⟩ :=
          seekInEvaluations_eq f mode evaluations (x :: passed) kept
        simp only [houtcome, firstOutcome]
        exact ⟨evaluations', nested, heq, hrest, by simpa using hlist'⟩
      | cons r rs =>
        rw [hrs] at houtcome hpending
        refine ⟨⟨x :: passed, evaluations⟩, found.opened ++ [found.cursor], ?_, ?_, hlist⟩
        · cases r <;> simp only [houtcome, firstOutcome, Except.map] <;> rfl
        · rw [hpending]
          simp
  termination_by structural evaluations => evaluations

end

/-! ## Moving cursors -/

/-- The others may be taken together with those behind. -/
theorem Seek.Finds.append {f : Forest} {found : Seek} {rs behind : List Outcome}
    (h : found.Finds f rs behind) (hrs : rs ≠ [] ∨ behind = []) : found.Finds f (rs ++ behind) [] := by
  rcases hrs with hrs | rfl
  · obtain ⟨r, rs, rfl⟩ := List.exists_cons_of_ne_nil hrs
    exact ⟨h.outcome, by simpa using h.pending⟩
  · rwa [List.append_nil]

/-- Where nothing kept is ahead, an item is looked for in the nested sequences, and then in
the values of the expressions. -/
theorem seek_evaluated_of_sought {f : Forest} {mode : SequenceMode} {evaluations : Zipper Evaluation}
    {nested left : List Cursor} {kept : Zipper Value} {rs : List Outcome}
    (hkept : mode.replayed kept = []) (h : seekInStack f nested = (firstOutcome rs, left)) :
    (Cursor.evaluated mode evaluations nested kept).seek f =
      if rs = [] then seekInEvaluations f mode evaluations.passed kept evaluations.ahead
      else Cursor.foundNested mode evaluations left kept (firstOutcome rs) := by
  obtain ⟨passed, ahead⟩ := kept
  have hnone : mode = .cached → ahead = [] := by
    rintro rfl
    exact hkept
  cases mode with
  | forwardOnly => cases rs with
    | nil => simp [Cursor.seek, h, firstOutcome]
    | cons r rs => cases r <;> simp [Cursor.seek, h, firstOutcome, Except.map]
  | cached =>
    obtain rfl := hnone rfl
    cases rs with
    | nil => simp [Cursor.seek, Zipper.next?, h, firstOutcome]
    | cons r rs => cases r <;> simp [Cursor.seek, Zipper.next?, h, firstOutcome, Except.map]

theorem seek_evaluated_eq {f : Forest} {mode : SequenceMode} {nested : List Cursor}
    {kept : Zipper Value} (evaluations : Zipper Evaluation) (hkept : mode.replayed kept = [])
    (hstack : (seekInStack f nested).1 = firstOutcome (pendingOfStack f nested) ∧
      pendingOfStack f (seekInStack f nested).2 = (pendingOfStack f nested).tail) :
    ∃ evaluations' nested', (Cursor.evaluated mode evaluations nested kept).seek f =
        Cursor.foundNested mode evaluations' nested' kept
          (firstOutcome (pendingOfStack f nested ++ outcomesOfEvaluations f evaluations.ahead)) ∧
      pendingOfStack f nested' ++ outcomesOfEvaluations f evaluations'.ahead =
        (pendingOfStack f nested ++ outcomesOfEvaluations f evaluations.ahead).tail ∧
      evaluations'.toList = evaluations.toList := by
  obtain ⟨houtcome, hpending⟩ := hstack
  rw [seek_evaluated_of_sought hkept (Prod.ext houtcome rfl)]
  cases hrs : pendingOfStack f nested with
  | nil =>
    rw [if_pos rfl]
    exact seekInEvaluations_eq f mode evaluations.ahead evaluations.passed kept
  | cons r rs =>
    rw [if_neg (List.cons_ne_nil r rs)]
    exact ⟨evaluations, _, rfl, by rw [hpending, hrs]; rfl, rfl⟩

/-- What is kept is gone through first, and then what comes from the other cursor. -/
theorem seek_cached_eq {f : Forest} {inner : Cursor} {kept : Zipper Value} {done : Bool} :
    (Cursor.cached inner kept done).seek f =
      let replay := seekInList f (.cached inner · done) kept.passed [] kept.ahead
      match replay.outcome, done with
      | .ok none, false =>
        { inner.seek f with
          cursor := .cached (inner.seek f).cursor
            (Zipper.recordAll ⟨kept.ahead.reverse ++ kept.passed, []⟩ (inner.seek f).pulled)
            (inner.seek f).atEnd
          pulled := replay.pulled ++ (inner.seek f).pulled }
      | _, _ => replay := rfl

mutual

/-- A look comes to the first outcome that is pending, and leaves the others pending. -/
theorem Cursor.finds_seek (f : Forest) : ∀ c : Cursor, (c.seek f).Finds f (c.pending f) []
  | .list items =>
    finds_seekInList f items.ahead .list items.passed [] [] fun _ => (List.append_nil _).symm
  | .range first last next => Cursor.finds_nextInRange f first last next
  | .cached inner kept done => by
    have hreplay := finds_seekInList f kept.ahead (.cached inner · done) kept.passed []
      (if done then [] else inner.pending f) fun _ => rfl
    rw [seek_cached_eq, Cursor.pending]
    dsimp only
    rw [hreplay.outcome]
    cases hrs : outcomesOfList f kept.ahead with
    | cons r rs =>
      rw [hrs] at hreplay
      cases r <;> exact hreplay.append (.inl (by simp))
    | nil =>
      rw [hrs] at hreplay
      cases done with
      | true => exact hreplay.append (.inr rfl)
      | false => exact finds_cached (inner.finds_seek f) (Zipper.ahead_recordAll _ rfl _) _
  | .evaluated mode evaluations nested kept => by
    by_cases hkept : mode.replayed kept = []
    · obtain ⟨evaluations', nested', heq, hrest, -⟩ :=
        seek_evaluated_eq evaluations hkept (finds_seekInStack f nested)
      rw [heq, Cursor.pending, hkept]
      exact finds_foundNested hkept hrest
    · obtain ⟨passed, ahead⟩ := kept
      cases mode with
      | forwardOnly => exact absurd rfl hkept
      | cached =>
        obtain ⟨item, rest, rfl⟩ := List.exists_cons_of_ne_nil hkept
        exact .single rfl rfl (List.append_nil _).symm
  | .nodes walk left started => Cursor.finds_nextNode f walk left started
  termination_by structural c => c

/-- An outcome is found in a stack of cursors where it is first pending at one. -/
theorem finds_seekInStack (f : Forest) : ∀ cs : List Cursor,
    (seekInStack f cs).1 = firstOutcome (pendingOfStack f cs) ∧
    pendingOfStack f (seekInStack f cs).2 = (pendingOfStack f cs).tail
  | [] => ⟨rfl, rfl⟩
  | top :: rest => by
    obtain ⟨houtcome, hpending⟩ := top.finds_seek f
    rw [seekInStack, pendingOfStack]
    cases hrs : top.pending f with
    | nil =>
      rw [hrs] at houtcome
      simp only [houtcome, firstOutcome]
      exact finds_seekInStack f rest
    | cons r rs =>
      rw [hrs] at houtcome hpending
      have hopen : pendingOfStack f ((top.seek f).opened ++ (top.seek f).cursor :: rest) =
          rs ++ pendingOfStack f rest := by
        rw [List.append_cons, pendingOfStack_append, hpending]
        simp
      cases r <;> simp only [houtcome, firstOutcome, Except.map] <;> exact ⟨rfl, hopen⟩
  termination_by structural cs => cs

end

/-! ## Evaluated expressions of which nothing is kept -/

namespace Cursor

variable {f : Forest} {es : List Evaluation} {left : List Outcome} {c : Cursor}

/-- The cursor that keeps nothing, with what is left of the outcomes of its expressions. -/
inductive Forward (f : Forest) (es : List Evaluation) (left : List Outcome) : Cursor → Prop
  | over {evaluations : Zipper Evaluation} {nested : List Cursor} {kept : Zipper Value} :
      evaluations.toList = es →
      pendingOfStack f nested ++ outcomesOfEvaluations f evaluations.ahead = left →
      Forward f es left (.evaluated .forwardOnly evaluations nested kept)

theorem foundNested_forwardOnly (evaluations : Zipper Evaluation) (nested : List Cursor)
    (kept : Zipper Value) (rs : List Outcome) :
    (foundNested .forwardOnly evaluations nested kept (firstOutcome rs)).outcome = firstOutcome rs ∧
    (foundNested .forwardOnly evaluations nested kept (firstOutcome rs)).cursor =
      .evaluated .forwardOnly evaluations nested kept := by
  rcases rs with _ | ⟨_ | _, _⟩ <;> exact ⟨rfl, rfl⟩

theorem Forward.next (h : Forward f es left c) :
    (c.next f).1 = firstOutcome left ∧ Forward f es left.tail (c.next f).2 := by
  obtain ⟨hlist, rfl⟩ := h
  rename_i evaluations nested kept
  have hkept : SequenceMode.forwardOnly.replayed kept = [] := rfl
  obtain ⟨evaluations', nested', hseek, hrest, hlist'⟩ :=
    seek_evaluated_eq evaluations hkept (finds_seekInStack f nested)
  simp only [Cursor.next, hseek, foundNested_forwardOnly]
  exact ⟨trivial, .over (hlist'.trans hlist) hrest⟩

theorem Forward.reset (h : Forward f es left c) :
    Forward f es (outcomesOfEvaluations f es) c.reset := by
  obtain ⟨rfl, -⟩ := h
  exact .over rfl rfl

end Cursor

end Grove

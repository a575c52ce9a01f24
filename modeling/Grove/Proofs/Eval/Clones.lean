/-
Clones. A cursor remembers of its history only where it is: whatever moves it is told, it stays a
cursor of the same sequence (`Cursor.sequence_move`). So a clone, which is made from that sequence,
starts afresh, and a family of clones of clones falls apart into as many cursors, each of which is
where its own moves have taken the first one (`Sequence.clones_start_afresh`).

What clones do share is the handle with which the expressions of a sequence are evaluated. Between
two uses it is at rest, with the context it was made for as its working copy or none at all, since no
evaluation leaves anything behind in the context; and so every use of it gives the same.
-/
import Grove.Proofs.Eval.Local
import Grove.Proofs.Value.Caching
import Grove.Proofs.Value.Truth

namespace Grove

/-! ## Moves stay in a sequence -/

theorem seekInList_cursor (f : Forest) (rebuild : Zipper Value → Cursor) (vs passed pulled : List Value) :
    ∃ z, (seekInList f rebuild passed pulled vs).cursor = rebuild z ∧
      z.toList = passed.reverse ++ vs := by
  induction vs generalizing passed pulled with
  | nil => exact ⟨⟨passed, []⟩, rfl, rfl⟩
  | cons v vs ih =>
    have hlist : (Zipper.mk (v :: passed) vs).toList = passed.reverse ++ v :: vs := by
      simp [Zipper.toList]
    rw [seekInList]
    split
    next => exact ⟨_, rfl, hlist⟩
    next =>
      split
      next =>
        obtain ⟨z, hcursor, hz⟩ := ih (v :: passed) (pulled ++ [v])
        exact ⟨z, hcursor, by simpa using hz⟩
      next => exact ⟨_, rfl, hlist⟩

namespace Cursor

theorem sequence_ofSequence (s : Sequence) : (ofSequence s).sequence = s := by
  cases s with
  | cached inner => exact congrArg Sequence.cached (sequence_ofSequence inner)
  | _ => rfl

theorem sequence_foundNested (mode : SequenceMode) (evaluations : Zipper Evaluation)
    (nested : List Cursor) (kept : Zipper Value) (outcome : Except Error (Option Value)) :
    (foundNested mode evaluations nested kept outcome).cursor.sequence =
      .evaluated mode evaluations.toList := by
  unfold foundNested
  split <;> rfl

theorem sequence_nextInRange (first last : Int64) (next : Option Int64) :
    (nextInRange first last next).cursor.sequence = .range first last := by
  cases next <;> rfl

theorem sequence_nextNode (f : Forest) (w : NodeWalk) (pending : List Nat) (started : Bool) :
    (nextNode f w pending started).cursor.sequence = .nodes w := by
  unfold nextNode
  generalize (if started then w.advance f pending else w.enter f) = moved
  rcases moved with ⟨_ | _ | _, _⟩ <;> rfl

variable {f : Forest}

theorem sequence_seek (c : Cursor) : (c.seek f).cursor.sequence = c.sequence := by
  cases c with
  | list items =>
    obtain ⟨z, hcursor, hz⟩ := seekInList_cursor f .list items.ahead items.passed []
    rw [seek, hcursor]
    exact congrArg Sequence.list hz
  | range first last next => exact sequence_nextInRange first last next
  | cached inner kept done =>
    obtain ⟨z, hcursor, -⟩ := seekInList_cursor f (.cached inner · done) kept.ahead kept.passed []
    rw [seek_cached_eq]
    dsimp only
    split
    next => exact congrArg Sequence.cached (sequence_seek inner)
    next => rw [hcursor]; rfl
  | evaluated mode evaluations nested kept =>
    by_cases hkept : mode.replayed kept = []
    · obtain ⟨evaluations', nested', hseek, -, hlist⟩ :=
        seek_evaluated_eq evaluations hkept (finds_seekInStack f nested)
      rw [hseek, sequence_foundNested, hlist]
      rfl
    · obtain ⟨passed, ahead⟩ := kept
      cases mode with
      | forwardOnly => exact absurd rfl hkept
      | cached =>
        obtain ⟨item, rest, rfl⟩ := List.exists_cons_of_ne_nil hkept
        rfl
  | nodes walk pending started => exact sequence_nextNode f walk pending started

theorem sequence_next (c : Cursor) : (c.next f).2.sequence = c.sequence := by
  cases c with
  | list items =>
    rw [next]
    cases hnext : items.next? with
    | none => rfl
    | some moved => exact congrArg Sequence.list (Zipper.toList_next? hnext)
  | cached inner kept done =>
    have hinner := sequence_next inner
    cases hkept : kept.next? with
    | some moved =>
      rw [next_cached_kept hkept]
      rfl
    | none =>
      cases done with
      | true =>
        rw [next_cached_done hkept]
      | false =>
        cases hgiven : (inner.next f).1 with
        | error e =>
          rw [next_cached_error hkept hgiven]
          exact congrArg Sequence.cached hinner
        | ok found =>
          cases found with
          | none =>
            rw [next_cached_none hkept hgiven]
            exact congrArg Sequence.cached hinner
          | some v =>
            rw [next_cached_some hkept hgiven]
            exact congrArg Sequence.cached hinner
  | range first last next => exact sequence_seek (.range first last next)
  | evaluated mode evaluations nested kept => exact sequence_seek (.evaluated mode evaluations nested kept)
  | nodes walk pending started => exact sequence_seek (.nodes walk pending started)

theorem sequence_previous (c : Cursor) : c.previous.2.sequence = c.sequence := by
  cases c with
  | list items =>
    rw [previous]
    cases hprevious : items.previous? with
    | none => rfl
    | some moved => exact congrArg Sequence.list (Zipper.toList_previous? hprevious)
  | cached inner kept done => rw [previous]; cases kept.previous? <;> rfl
  | evaluated mode evaluations nested kept =>
    cases mode with
    | forwardOnly => rfl
    | cached => rw [previous]; cases kept.previous? <;> rfl
  | range first last next => rfl
  | nodes walk pending started => rfl

theorem sequence_reset (c : Cursor) : c.reset.sequence = c.sequence := by
  cases c with
  | evaluated mode evaluations nested kept => cases mode <;> rfl
  | _ => rfl

theorem sequence_move (c : Cursor) (m : Move) : (c.move f m).2.sequence = c.sequence := by
  cases m with
  | next => exact c.sequence_next
  | previous => exact c.sequence_previous
  | reset => exact c.sequence_reset

theorem play_append_cursor (f : Forest) (c : Cursor) (script others : List Move) :
    (c.play f (script ++ others)).2 = ((c.play f script).2.play f others).2 := by
  induction script generalizing c with
  | nil => rfl
  | cons m script ih => exact ih _

/-- Whatever a cursor was told, it starts afresh as it did at first. -/
theorem fresh_play (s : Sequence) (script : List Move) :
    ((ofSequence s).play f script).2.fresh = ofSequence s := by
  have hsequence : ∀ c : Cursor, (c.play f script).2.sequence = c.sequence := by
    induction script with
    | nil => exact fun _ => rfl
    | cons m script ih => exact fun c => (ih _).trans (c.sequence_move m)
  rw [fresh, hsequence, sequence_ofSequence]

end Cursor

/-! ## Families -/

/-- What happens to a cursor and its clones, which are numbered as they come. -/
inductive FamilyEvent where
  | clone (member : Nat)
  | move (member : Nat) (m : Move)

/-- A cursor, with what it was told since it was made and what it answered. -/
structure Member where
  cursor : Cursor
  told : List Move := []
  answers : List (Except Error (Option Value)) := []

def Member.tell (f : Forest) (k : Member) (m : Move) : Member where
  cursor := (k.cursor.move f m).2
  told := k.told ++ [m]
  answers := k.answers ++ [(k.cursor.move f m).1]

/-- A cursor and its clones. -/
abbrev Family := List Member

namespace Family

def ofSequence (s : Sequence) : Family := [{ cursor := .ofSequence s }]

def step (f : Forest) (family : Family) : FamilyEvent → Family
  | .clone i => family ++ (family[i]?.map fun k => { cursor := k.cursor.fresh }).toList
  | .move i m => family.modify i (·.tell f m)

def run (f : Forest) (family : Family) (history : List FamilyEvent) : Family :=
  history.foldl (step f) family

variable {f : Forest} {s : Sequence} {family : Family}

/-- Each member is where its own moves have taken the cursor of a sequence. -/
def Apart (f : Forest) (s : Sequence) (family : Family) : Prop :=
  ∀ k ∈ family, (Cursor.ofSequence s).play f k.told = (k.answers, k.cursor)

theorem Apart.fresh (h : Apart f s family) {k : Member} (hk : k ∈ family) :
    k.cursor.fresh = .ofSequence s := by
  have hplayed : ((Cursor.ofSequence s).play f k.told).2 = k.cursor := by rw [h k hk]
  rw [← hplayed, Cursor.fresh_play]

theorem Apart.step (h : Apart f s family) (event : FamilyEvent) : Apart f s (family.step f event) := by
  intro k hk
  cases event with
  | clone i =>
    rcases List.mem_append.1 hk with hk | hk
    · exact h k hk
    · obtain ⟨parent, hparent, rfl⟩ := Option.map_eq_some_iff.1 (Option.mem_toList.1 hk)
      rw [h.fresh (List.mem_of_getElem? hparent)]
      rfl
  | move i m =>
    obtain ⟨j, hj⟩ := List.mem_iff_getElem?.1 hk
    rw [Family.step, List.getElem?_modify] at hj
    obtain ⟨k', hk', hj⟩ := Option.map_eq_some_iff.1 hj
    have hplayed := h k' (List.mem_of_getElem? hk')
    split at hj
    next =>
      obtain rfl : k'.tell f m = k := hj
      have hanswers := Cursor.play_append f (.ofSequence s) k'.told [m]
      have hcursor := Cursor.play_append_cursor f (.ofSequence s) k'.told [m]
      rw [hplayed] at hanswers hcursor
      exact Prod.ext hanswers hcursor
    next =>
      obtain rfl : k' = k := hj
      exact hplayed

theorem Apart.run (h : Apart f s family) (history : List FamilyEvent) :
    Apart f s (family.run f history) := by
  induction history generalizing family with
  | nil => exact h
  | cons event history ih => exact ih (h.step event)

theorem length_le_run (family : Family) (history : List FamilyEvent) :
    family.length ≤ (family.run f history).length := by
  induction history generalizing family with
  | nil => exact Nat.le_refl _
  | cons event history ih =>
    refine Nat.le_trans ?_ (ih (family.step f event))
    cases event <;> simp [step]

/-- A member that is told to move moves alone. -/
theorem run_moves (family : Family) (k : Member) (script : List Move) :
    (family ++ [k]).run f (script.map (.move family.length)) =
      family ++ [script.foldl (·.tell f ·) k] := by
  induction script generalizing k with
  | nil => rfl
  | cons m script ih =>
    have hstep : (family ++ [k]).step f (.move family.length m) = family ++ [k.tell f m] := by
      rw [step, List.modify_eq_take_cons_drop (by simp)]
      simp
    rw [List.map_cons, run, List.foldl_cons, hstep]
    exact ih _

theorem told_foldl (script : List Move) (k : Member) :
    (script.foldl (·.tell f ·) k).told = k.told ++ script := by
  induction script generalizing k with
  | nil => exact (List.append_nil _).symm
  | cons m script ih => exact (ih (k.tell f m)).trans (List.append_assoc ..)

end Family

/-! ## The handle that clones share -/

/-- Computes with the focus of a sequence, if it has one, once more on top. -/
def Eval.refocused (focus : Option Focus) (x : Eval Value) : Eval Value :=
  match focus with
  | some focus => Eval.focused focus x
  | none => x

/-- A use of the handle of a sequence of expressions: one of its slots is evaluated, and meanwhile
others are. -/
inductive SlotUse where
  | item (slot : Nat) (f : Forest) (meanwhile : List SlotUse)

mutual

/-- Evaluates a slot on the working copy of a handle. Uses made meanwhile find the copy taken out. -/
def SlotUse.apply (slots : Slots) (focus : Option Focus) :
    SlotUse → ContextHandle → Except Error Value × ContextHandle
  | .item i f meanwhile, h =>
    match Eval.slot slots i "sequence item" with
    | .error e => (.error e, h)
    | .ok x =>
      let (c, h) := h.checkOut
      let h := applySlotUses slots focus meanwhile h
      let (result, c) := Eval.refocused focus x f c
      (result, h.checkIn c)
  termination_by structural use => use

/-- Uses of a handle, one after the other. -/
def applySlotUses (slots : Slots) (focus : Option Focus) : List SlotUse → ContextHandle → ContextHandle
  | [], h => h
  | use :: uses, h => applySlotUses slots focus uses (use.apply slots focus h).2
  termination_by structural uses => uses

end

namespace ContextHandle

/-- Nothing is changed of what a handle was made for. -/
structure AtRest (c : Context) (h : ContextHandle) : Prop where
  snapshot_eq : h.snapshot = c
  working_eq : ∀ copy ∈ h.working, copy = c

variable {c : Context} {h : ContextHandle}

theorem AtRest.ofSnapshot (c : Context) : AtRest c { snapshot := c } := ⟨rfl, nofun⟩

theorem AtRest.checkOut (hrest : AtRest c h) : h.checkOut.1 = c ∧ AtRest c h.checkOut.2 := by
  obtain ⟨hsnapshot, hworking⟩ := hrest
  refine ⟨?_, hsnapshot, nofun⟩
  rw [ContextHandle.checkOut]
  cases hcopy : h.working with
  | none => exact hsnapshot
  | some copy => exact hworking copy hcopy

theorem AtRest.checkIn (hrest : AtRest c h) : AtRest c (h.checkIn c) := by
  obtain ⟨rfl, -⟩ := hrest
  refine ⟨rfl, fun copy hcopy => ?_⟩
  obtain rfl := Option.some_inj.1 hcopy
  simp [Context.truncate, Context.depth]

end ContextHandle

open ContextHandle (AtRest)

namespace Eval

variable {slots : Slots} {c : Context} {h : ContextHandle}

theorem Local.refocused {x : Eval Value} (hx : x.Neutral) (focus : Option Focus) :
    Neutral (Eval.refocused focus x) := by
  cases focus with
  | none => exact hx
  | some focus => exact hx.focused focus

theorem suspended_of_slot {x : Eval Value} {i : Nat} (hslot : slot slots i "sequence item" = .ok x)
    (c : Context) (f : Forest) : suspended c slots i f = (refocused c.focus.head? x f c).1 := by
  rw [suspended, hslot]
  cases c.focus.head? <;> rfl

/-- Without other uses meanwhile, a use is a computation with the working copy of the handle. -/
theorem apply_item_nil {x : Eval Value} {i : Nat} (hslot : slot slots i "sequence item" = .ok x)
    (focus : Option Focus) (f : Forest) (h : ContextHandle) :
    (SlotUse.item i f []).apply slots focus h = h.withContext (refocused focus x f) := by
  rw [SlotUse.apply, hslot]
  rfl

/-- On a handle at rest a slot comes to what it comes to in a context of its own, whatever is done
meanwhile, and what is put back is as it was. -/
theorem apply_item_eq (hslots : LocalSlots Eq slots) (hrest : AtRest c h) {meanwhile : List SlotUse}
    (hmeanwhile : ∀ {h}, AtRest c h → AtRest c (applySlotUses slots c.focus.head? meanwhile h))
    (i : Nat) (f : Forest) :
    ((SlotUse.item i f meanwhile).apply slots c.focus.head? h).1 = suspended c slots i f ∧
    AtRest c ((SlotUse.item i f meanwhile).apply slots c.focus.head? h).2 := by
  rw [SlotUse.apply]
  cases hslot : slot slots i "sequence item" with
  | error e =>
    rw [suspended, hslot]
    exact ⟨rfl, hrest⟩
  | ok x =>
    have hx := (hslots x (mem_of_slot hslot)).refocused c.focus.head?
    obtain ⟨hcopy, hout⟩ := hrest.checkOut
    rw [suspended_of_slot hslot]
    dsimp only
    rw [hcopy, hx.context_eq]
    exact ⟨rfl, (hmeanwhile hout).checkIn⟩

mutual

theorem atRest_apply (hslots : LocalSlots Eq slots) : ∀ (use : SlotUse) {h : ContextHandle}, AtRest c h →
    AtRest c (use.apply slots c.focus.head? h).2
  | .item i f meanwhile, _, hrest =>
    (apply_item_eq hslots hrest (fun h => atRest_applySlotUses hslots meanwhile h) i f).2
  termination_by structural use => use

theorem atRest_applySlotUses (hslots : LocalSlots Eq slots) : ∀ (uses : List SlotUse) {h : ContextHandle},
    AtRest c h → AtRest c (applySlotUses slots c.focus.head? uses h)
  | [], _, hrest => hrest
  | use :: uses, _, hrest => atRest_applySlotUses hslots uses (atRest_apply hslots use hrest)
  termination_by structural uses => uses

end

end Eval

/-- Whatever a cursor over a sequence, its clones and theirs are told, in any order: each of them
answers as the first one would if it were told the same alone, and a new clone of any of them starts
afresh and gives all items of the sequence. A clone that is made and moved leaves the others where
they are. Where the items are those of expressions, evaluated one by one on a handle that all clones
share, each comes to the same whatever was evaluated before, and whatever is meanwhile. -/
theorem Sequence.clones_start_afresh :
    (∀ (s : Sequence) (f : Forest) (xs : List Value), (Value.sequence s).flatten f = .ok xs →
      ∀ history : List FamilyEvent,
        let family := (Family.ofSequence s).run f history
        family ≠ [] ∧
        (∀ k ∈ family, (Cursor.ofSequence s).play f k.told = (k.answers, k.cursor) ∧
          (Value.sequence k.cursor.sequence).flatten f = .ok xs ∧
          k.cursor.fresh.Gives f (xs.map .ok)) ∧
        ∀ i < family.length, ∀ script : List Move, ∃ clone : Member,
          family.run f (.clone i :: script.map (.move family.length)) = family ++ [clone] ∧
          clone.told = script ∧
          (Cursor.ofSequence s).play f script = (clone.answers, clone.cursor)) ∧
    ∀ (mode : SequenceMode) (es : List Expr) (c : Context),
      let slots := Expr.evaluateSlots (Expr.filled es)
      ∃ evaluations, ofExprs mode es c = .evaluated mode evaluations ∧
        ∀ (uses meanwhile : List SlotUse) (i : Nat) (x : Evaluation), evaluations[i]? = some x →
          ∀ f, ((SlotUse.item i f meanwhile).apply slots c.focus.head?
            (applySlotUses slots c.focus.head? uses { snapshot := c })).1 = x f := by
  refine ⟨fun s f xs hxs history => ?family, fun mode es c => ?handle⟩
  case family =>
    intro family
    have hstart : (Family.ofSequence s).Apart f s := by
      intro k hk
      obtain rfl := List.mem_singleton.1 hk
      rfl
    have hapart : family.Apart f s := hstart.run history
    have hgives : (Cursor.ofSequence s).Gives f (xs.map .ok) := by
      have houtcomes : s.outcomes f = xs.map .ok := Value.flatten_eq_ok_iff.1 hxs
      exact houtcomes ▸ s.gives f
    refine ⟨?_, fun k hk => ⟨hapart k hk, ?_, ?_⟩, fun i hi script => ?_⟩
    · exact List.ne_nil_of_length_pos ((Family.ofSequence s).length_le_run history)
    · have hfresh := congrArg Cursor.sequence (hapart.fresh hk)
      rw [Cursor.fresh, Cursor.sequence_ofSequence, Cursor.sequence_ofSequence] at hfresh
      rwa [hfresh]
    · rwa [hapart.fresh hk]
    · have hclone : family.step f (.clone i) = family ++ [{ cursor := .ofSequence s }] := by
        rw [Family.step, List.getElem?_eq_getElem hi]
        simp [hapart.fresh (List.getElem_mem hi)]
      have hrun : family.run f (.clone i :: script.map (.move family.length)) =
          family ++ [script.foldl (·.tell f ·) { cursor := .ofSequence s }] := by
        rw [Family.run, List.foldl_cons, hclone]
        exact family.run_moves _ script
      have htold := Family.told_foldl (f := f) script { cursor := .ofSequence s }
      refine ⟨_, hrun, htold, ?_⟩
      have hmoved := hapart.run (.clone i :: script.map (.move family.length)) _
        (hrun ▸ List.mem_append_right family (List.mem_singleton_self _))
      rwa [htold] at hmoved
  case handle =>
    intro slots
    have hslots : Eval.LocalSlots Eq slots := Expr.local_evaluateSlots _
    refine ⟨_, rfl, fun uses meanwhile i x hx f => ?_⟩
    obtain ⟨j, hj, rfl⟩ := Option.map_eq_some_iff.1 (List.getElem?_map ▸ hx)
    obtain ⟨hlt, rfl⟩ := List.getElem?_eq_some_iff.1 hj
    rw [List.getElem_range]
    have hrest := Eval.atRest_applySlotUses hslots uses (AtRest.ofSnapshot c)
    exact (Eval.apply_item_eq hslots hrest
      (fun h => Eval.atRest_applySlotUses hslots meanwhile h) i f).1

/-- Nested lists with a cached range in them, a clone of a clone, and another clone that is taken to
its end; and the item in focus, asked for on the handle while a text is. -/
theorem Sequence.clones_start_afresh_nested :
    let nested : Value := .sequence (.list [.sequence (.cached (.range 2 3)), .string "a"])
    let s : Sequence := .list [.ofInt 1, nested]
    let xs : List Value := [.ofInt 1, .ofInt 2, .ofInt 3, .string "a"]
    let family := (Family.ofSequence s).run default
      [.move 0 .next, .clone 0, .move 1 .next, .clone 1, .move 1 .next, .move 0 .next, .move 0 .previous]
    let es : List Expr := [.string "b", .contextItem]
    let c : Context := { Context.standard with focus := [⟨.string "c", 1, 1⟩] }
    let slots := Expr.evaluateSlots (Expr.filled es)
    (Value.sequence s).flatten default = .ok xs ∧ 0 < family.length ∧
      (∀ k ∈ family, k.cursor.fresh.Gives default (xs.map .ok)) ∧
      (∃ clone, family.run default [.clone 0, .move 3 .next, .move 3 .next, .move 3 .next] =
          family ++ [clone] ∧
        clone.answers = [.ok (some (.ofInt 1)), .ok (some nested), .ok none]) ∧
      ((SlotUse.item 1 default [.item 0 default []]).apply slots c.focus.head?
        (applySlotUses slots c.focus.head? [.item 1 default []] { snapshot := c })).1 =
          .ok (.string "c") := by
  intro nested s xs family es c slots
  obtain ⟨hfamilies, hhandles⟩ := clones_start_afresh
  have hxs : (Value.sequence s).flatten default = .ok xs := rfl
  have hlength : family.length = 3 := rfl
  obtain ⟨-, hmembers, hclones⟩ := hfamilies s default xs hxs
    [.move 0 .next, .clone 0, .move 1 .next, .clone 1, .move 1 .next, .move 0 .next, .move 0 .previous]
  have hfirst : 0 < family.length := by simp [hlength]
  obtain ⟨clone, hrun, -, hplayed⟩ := hclones 0 hfirst [.next, .next, .next]
  obtain ⟨evaluations, hevaluations, huses⟩ := hhandles .forwardOnly es c
  obtain ⟨-, rfl⟩ := Sequence.evaluated.inj hevaluations
  refine ⟨hxs, hfirst, fun k hk => (hmembers k hk).2.2, ⟨clone, hrun, ?_⟩, ?_⟩
  · exact (congrArg Prod.fst hplayed).symm
  · exact (huses [.item 1 default []] [.item 0 default []] 1 _ rfl default).trans rfl

end Grove

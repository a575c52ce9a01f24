/-
Caching and failures. A cursor over evaluated expressions that keeps its items does not keep the
failures between them. One that keeps nothing comes to a failure again after each reset; the
other goes through its items and then on from where it was. So the two answer alike until they
are taken back behind a failure, and they can be told apart by that exactly if some item cannot
be had (`Cursor.caching_agrees_iff_none_fails`).

Both are followed by the outcomes of the expressions that are left for them: a step lemma for
each says what a move does to these, and the runs are inductions on the script.
-/
import Grove.Proofs.Value.Replay

namespace Grove

namespace Cursor

variable {f : Forest} {es : List Evaluation} {kept : Zipper Value} {left : List Outcome} {c : Cursor}

/-! ## Scripts -/

theorem play_append (f : Forest) (c : Cursor) (script others : List Move) :
    (c.play f (script ++ others)).1 =
      (c.play f script).1 ++ ((c.play f script).2.play f others).1 := by
  induction script generalizing c with
  | nil => rfl
  | cons m script ih => exact congrArg ((c.move f m).1 :: ·) (ih _)

theorem length_play (f : Forest) (c : Cursor) (script : List Move) :
    (c.play f script).1.length = script.length := by
  induction script generalizing c with
  | nil => rfl
  | cons m script ih => exact congrArg (· + 1) (ih _)

/-! ## The two cursors together -/

/-- The same is pending at both cursors. -/
structure Abreast (f : Forest) (es : List Evaluation) (kept : Zipper Value) (left : List Outcome)
    (plain caching : Cursor) : Prop where
  forward : Forward f es (kept.ahead.map .ok ++ left) plain
  keeping : Keeping f kept left caching

namespace Abreast

variable {plain caching : Cursor}

/-- Both come to the same, and an outcome that is no failure is not lost. -/
theorem next (h : Abreast f es kept left plain caching) :
    (caching.next f).1 = (plain.next f).1 ∧
    ∃ kept' left', Abreast f es kept' left' (plain.next f).2 (caching.next f).2 ∧
      ((plain.next f).1.isOk →
        kept'.toList.map Except.ok ++ left' = kept.toList.map Except.ok ++ left) := by
  obtain ⟨hanswer, hforward⟩ := h.forward.next
  cases hnext : kept.next? with
  | some moved =>
    obtain ⟨v, kept'⟩ := moved
    obtain ⟨hanswer', hkeeping⟩ := h.keeping.next_kept hnext
    rw [Zipper.ahead_next? hnext] at hanswer hforward
    exact ⟨hanswer'.trans hanswer.symm, kept', left, ⟨hforward, hkeeping⟩,
      fun _ => by rw [Zipper.toList_next? hnext]⟩
  | none =>
    obtain ⟨hanswer', hkeeping⟩ := h.keeping.next_end hnext
    rw [Zipper.ahead_eq_nil hnext] at hanswer hforward
    refine ⟨hanswer'.trans hanswer.symm, keepFirst kept left, left.tail, ⟨?_, hkeeping⟩, ?_⟩
    · have hahead : (keepFirst kept left).ahead = [] := by
        rcases left with _ | ⟨_ | _, _⟩
        · exact Zipper.ahead_eq_nil hnext
        · exact Zipper.ahead_eq_nil hnext
        · rfl
      rw [hahead]
      exact hforward
    · intro hok
      rw [hanswer] at hok
      rcases left with _ | ⟨e | v, left⟩
      · rfl
      · simp [firstOutcome, Except.map, Except.isOk, Except.toBool] at hok
      · simp [keepFirst, Zipper.toList_record]

/-- As long as they are not taken back, they answer alike. -/
theorem play_eq_of_no_reset (h : Abreast f es kept left plain caching) {script : List Move}
    (hprevious : .previous ∉ script) (hreset : .reset ∉ script) :
    (caching.play f script).1 = (plain.play f script).1 := by
  induction script generalizing kept left plain caching with
  | nil => rfl
  | cons m script ih =>
    cases m with
    | previous => simp at hprevious
    | reset => simp at hreset
    | next =>
      obtain ⟨hanswer, _, _, hmoved, -⟩ := h.next
      exact List.cons_eq_cons.2 ⟨hanswer, ih hmoved (by simpa using hprevious) (by simpa using hreset)⟩

/-- As long as they are not taken back behind a failure, they answer alike. -/
theorem play_eq_of_whole (h : Abreast f es kept left plain caching)
    (hwhole : kept.toList.map .ok ++ left = outcomesOfEvaluations f es) {script : List Move}
    (hprevious : .previous ∉ script)
    (hreset : ∀ before after, script = before ++ .reset :: after →
      ∀ a ∈ (plain.play f before).1, a.isOk) :
    (caching.play f script).1 = (plain.play f script).1 := by
  induction script generalizing kept left plain caching with
  | nil => rfl
  | cons m script ih =>
    have hprevious' : Move.previous ∉ script := fun hin => hprevious (List.mem_cons_of_mem _ hin)
    have hreset' : ∀ before after, script = before ++ .reset :: after →
        ∀ a ∈ ((plain.move f m).2.play f before).1, a.isOk := fun before after hscript a ha =>
      hreset (m :: before) after (by rw [hscript]; rfl) a (List.mem_cons_of_mem _ ha)
    cases m with
    | previous => simp at hprevious
    | reset =>
      have hback : Abreast f es kept.rewind left plain.reset caching.reset :=
        ⟨hwhole ▸ h.forward.reset, h.keeping.reset⟩
      exact List.cons_eq_cons.2 ⟨rfl, ih hback hwhole hprevious' hreset'⟩
    | next =>
      obtain ⟨hanswer, kept', left', hmoved, hkept⟩ := h.next
      refine List.cons_eq_cons.2 ⟨hanswer, ?_⟩
      cases hok : (plain.next f).1.isOk with
      | true => exact ih hmoved ((hkept hok).trans hwhole) hprevious' hreset'
      | false =>
        -- after a failure there is no way back
        refine hmoved.play_eq_of_no_reset hprevious' fun hin => ?_
        obtain ⟨before, after, hscript⟩ := List.append_of_mem hin
        have hfirst := hreset (.next :: before) after (by rw [hscript]; rfl) (plain.next f).1
          List.mem_cons_self
        simp [hok] at hfirst

end Abreast

/-! ## Telling the cursors apart -/

/-- Where nothing fails, the cursor that keeps nothing does not. -/
theorem Forward.play_ok (hes : ∀ r ∈ outcomesOfEvaluations f es, r.isOk) (h : Forward f es left c)
    (hleft : ∀ r ∈ left, r.isOk) {script : List Move} (hprevious : .previous ∉ script) :
    ∀ a ∈ (c.play f script).1, a.isOk := by
  induction script generalizing left c with
  | nil => simp [play]
  | cons m script ih =>
    have hprevious' : Move.previous ∉ script := fun hin => hprevious (List.mem_cons_of_mem _ hin)
    cases m with
    | previous => simp at hprevious
    | reset => exact List.forall_mem_cons.2 ⟨rfl, ih h.reset hes hprevious'⟩
    | next =>
      obtain ⟨hanswer, hmoved⟩ := h.next
      refine List.forall_mem_cons.2 ⟨?_, ih hmoved (fun r hr => hleft r (List.mem_of_mem_tail hr))
        hprevious'⟩
      show (c.next f).1.isOk
      rw [hanswer]
      cases left with
      | nil => rfl
      | cons r left => cases r with
        | ok v => rfl
        | error e => exact (Bool.false_ne_true (hleft _ List.mem_cons_self)).elim

/-- The cursor that keeps nothing answers with all outcomes, failures included. -/
theorem Forward.play_nexts (h : Forward f es left c) :
    (c.play f (.replicate left.length .next)).1 = left.map (·.map some) ∧
    Forward f es [] (c.play f (.replicate left.length .next)).2 := by
  induction left generalizing c with
  | nil => exact ⟨rfl, h⟩
  | cons r left ih =>
    obtain ⟨hanswer, hmoved⟩ := h.next
    obtain ⟨hanswers, hend⟩ := ih hmoved
    exact ⟨List.cons_eq_cons.2 ⟨hanswer, hanswers⟩, hend⟩

/-- The cursor that keeps its items is left with nothing but them. -/
theorem Keeping.play_nexts (h : Keeping f kept left c) (hend : kept.next? = none) :
    ∃ kept', Keeping f kept' [] (c.play f (.replicate left.length .next)).2 := by
  induction left generalizing kept c with
  | nil => exact ⟨kept, h⟩
  | cons r left ih =>
    obtain ⟨-, hmoved⟩ := h.next_end hend
    refine ih hmoved ?_
    cases r with
    | error e => exact hend
    | ok v => rfl

/-- With nothing left but what is kept, no answer is a failure. -/
theorem Keeping.play_ok (h : Keeping f kept [] c) (script : List Move) :
    ∃ answers : List (Option Value), (c.play f script).1 = answers.map .ok := by
  have hstands : StandsEvaluated f kept.toList { position := kept.position } c :=
    Keeping.stands [] h rfl (List.append_nil _)
  exact ⟨_, (play_eq move_evaluated script hstands).1⟩

/-- An answer with the code of its failure alone. -/
def coded (answer : Except Error (Option Value)) : Except ErrorCode (Option Value) :=
  answer.mapError (·.code)

theorem exists_items_of_all_ok {rs : List Outcome} (h : ∀ r ∈ rs, r.isOk) :
    ∃ xs : List Value, rs = xs.map .ok := by
  induction rs with
  | nil => exact ⟨[], rfl⟩
  | cons r rs ih =>
    obtain ⟨xs, rfl⟩ := ih fun s hs => h s (List.mem_cons_of_mem _ hs)
    cases r with
    | ok x => exact ⟨x :: xs, rfl⟩
    | error e => exact (Bool.false_ne_true (h _ List.mem_cons_self)).elim

/-- If going through all outcomes twice does not tell the cursors apart, none is a failure. -/
theorem all_ok_of_coded_eq {plain caching : Cursor} {rs : List Outcome}
    (hplain : Forward f es rs plain) (hcaching : Keeping f kept rs caching)
    (hend : kept.next? = none) (hrs : outcomesOfEvaluations f es = rs)
    (h : ∀ script, .previous ∉ script →
      (caching.play f script).1.map coded = (plain.play f script).1.map coded) :
    ∀ r ∈ rs, r.isOk := by
  intro r hr
  let nexts : List Move := .replicate rs.length .next
  obtain ⟨kept', hkept⟩ := hcaching.play_nexts hend
  obtain ⟨answers, hcached⟩ := hkept.reset.play_ok nexts
  obtain ⟨-, hforward⟩ := hplain.play_nexts
  have hagain : ((plain.play f nexts).2.reset.play f nexts).1 = rs.map (·.map some) :=
    (hrs ▸ hforward.reset).play_nexts.1
  have htwice := h (nexts ++ .reset :: nexts) (by simp [nexts])
  rw [play_append, play_append, List.map_append, List.map_append] at htwice
  obtain ⟨-, hsecond⟩ := List.append_inj htwice (by simp only [List.length_map, length_play])
  have hanswers : (answers.map .ok).map coded = (rs.map (·.map some)).map coded := by
    rw [← hcached, ← hagain]
    exact (List.cons_eq_cons.1 hsecond).2
  have hin : coded (r.map some) ∈ (answers.map .ok).map coded := by
    rw [hanswers]
    exact List.mem_map_of_mem (List.mem_map_of_mem hr)
  simp only [List.map_map, List.mem_map] at hin
  obtain ⟨answer, -, hanswer⟩ := hin
  cases r with
  | ok v => rfl
  | error e => cases hanswer

/-- Over the same expressions in the same context, the sequence that keeps its items answers a
script of moves forward and back to the start as the one that keeps nothing does, if the script
does not go back behind a failure; and the two answer all such scripts alike, up to the texts of
failures, exactly if all items can be had. -/
theorem caching_agrees_iff_none_fails (es : List Expr) (c : Context) (f : Forest) :
    let plain := ofSequence (Sequence.ofExprs .forwardOnly es c)
    let caching := ofSequence (Sequence.ofExprs .cached es c)
    (∀ script, .previous ∉ script →
      (∀ before after, script = before ++ .reset :: after → ∀ a ∈ (plain.play f before).1, a.isOk) →
      (caching.play f script).1 = (plain.play f script).1) ∧
    ((∀ script, .previous ∉ script →
        (caching.play f script).1.map coded = (plain.play f script).1.map coded) ↔
      ∃ xs, (Value.sequence (Sequence.ofExprs .cached es c)).flatten f = .ok xs) := by
  intro plain caching
  let outcomes := (Value.sequence (Sequence.ofExprs .cached es c)).outcomes f
  have hplain : Forward f _ outcomes plain := .over rfl rfl
  have hcaching : Keeping f {} outcomes caching := .over rfl
  have habreast : Abreast f _ {} outcomes plain caching := ⟨hplain, hcaching⟩
  refine ⟨fun script => habreast.play_eq_of_whole rfl, ?_, ?_⟩
  · intro h
    obtain ⟨xs, hxs⟩ := exists_items_of_all_ok (all_ok_of_coded_eq hplain hcaching rfl rfl h)
    exact ⟨xs, Value.flatten_eq_ok_iff.2 hxs⟩
  · rintro ⟨xs, hxs⟩ script hprevious
    have hok : ∀ r ∈ outcomes, r.isOk := by
      intro r hr
      have hin : r ∈ xs.map Except.ok := Value.flatten_eq_ok_iff.1 hxs ▸ hr
      obtain ⟨x, -, rfl⟩ := List.mem_map.1 hin
      rfl
    refine congrArg _ (habreast.play_eq_of_whole rfl hprevious fun before after hscript => ?_)
    refine hplain.play_ok hok hok fun hin => hprevious ?_
    rw [hscript]
    exact List.mem_append_left _ hin

/-- Two items with a variable between them that is not bound. -/
def faulty : List Expr := [.string "a", .var "missing", .string "b"]

/-- Back once before the failure, and then over it. -/
theorem caching_agrees_before_failure :
    let plain := ofSequence (Sequence.ofExprs .forwardOnly faulty .standard)
    let caching := ofSequence (Sequence.ofExprs .cached faulty .standard)
    let script : List Move := [.next, .reset, .next, .next, .next, .next]
    (∀ before after, script = before ++ .reset :: after →
      ∀ a ∈ (plain.play default before).1, a.isOk) ∧
    (caching.play default script).1 = (plain.play default script).1 := by
  intro plain caching script
  have hbefore : ∀ before after, script = before ++ .reset :: after →
      ∀ a ∈ (plain.play default before).1, a.isOk := by
    intro before after hscript
    obtain rfl : before = [.next] := by
      change [Move.next, .reset, .next, .next, .next, .next] = _ at hscript
      rcases before with _ | ⟨_, _ | ⟨_, before⟩⟩
      · simp at hscript
      · obtain ⟨rfl, -⟩ := List.cons_eq_cons.1 hscript
        rfl
      · obtain ⟨-, -, hlater⟩ : _ ∧ _ ∧ [Move.next, .next, .next, .next] = before ++ .reset :: after := by
          simpa using hscript
        have hin : Move.reset ∈ [Move.next, .next, .next, .next] := by simp [hlater]
        simp at hin
    exact List.forall_mem_singleton.2 rfl
  exact ⟨hbefore, (caching_agrees_iff_none_fails faulty .standard default).1 script (by decide) hbefore⟩

/-- The failure between two items is gone once they are kept. -/
theorem caching_drops_failure :
    let plain := ofSequence (Sequence.ofExprs .forwardOnly faulty .standard)
    let caching := ofSequence (Sequence.ofExprs .cached faulty .standard)
    let script : List Move := [.next, .next, .next, .reset, .next, .next]
    let missing : Except Error (Option Value) := .error (.unboundVariable "missing")
    (plain.play default script).1 = [.ok (some (.string "a")), missing, .ok (some (.string "b")),
      .ok none, .ok (some (.string "a")), missing] ∧
    (caching.play default script).1 = [.ok (some (.string "a")), missing, .ok (some (.string "b")),
      .ok none, .ok (some (.string "a")), .ok (some (.string "b"))] ∧
    (caching.play default script).1.map coded ≠ (plain.play default script).1.map coded := by
  intro plain caching script missing
  have hplain : (plain.play default script).1 = [.ok (some (.string "a")), missing,
    .ok (some (.string "b")), .ok none, .ok (some (.string "a")), missing] := rfl
  have hcaching : (caching.play default script).1 = [.ok (some (.string "a")), missing,
    .ok (some (.string "b")), .ok none, .ok (some (.string "a")), .ok (some (.string "b"))] := rfl
  refine ⟨hplain, hcaching, fun hcoded => ?_⟩
  rw [hplain, hcaching] at hcoded
  have hlast : some (coded (.ok (some (.string "b")))) = some (coded missing) :=
    congrArg (·[5]?) hcoded
  cases hlast

end Cursor

end Grove

/-
Handles. The working copy of a handle is taken out for a call, cut down to the depth of the snapshot
when the call ends, and put back for the next; a call within a call finds none and starts from the
snapshot. As with a scope, cutting down brings nothing back: a copy from which a call took an entry
of the snapshot is handed out without it. So a call is handed the focus of the snapshot only if
the copy that lies ready has lost none of it (`ContextHandle.handed_snapshot_iff`).

A history is a list of events, in which calls open and end like brackets and any call that is open
may work on its copy, also while others are open within it. All clones of a handle are one
handle here, since they share the snapshot and the copy.
-/
import Grove.Proofs.Eval.Scope

namespace Grove

/-- What happens to a handle. -/
inductive HandleEvent where
  /-- A call begins. -/
  | enter
  /-- An open call works on its copy. The innermost is number zero. -/
  | work (call : Nat) (op : FocusOp)
  /-- The innermost call ends. -/
  | leave

/-- A handle, and the copies of the calls that are open, the innermost first. -/
structure HandleCalls where
  handle : ContextHandle
  copies : List Context := []

namespace HandleCalls

/-- A handle as it is made. -/
def ofSnapshot (snapshot : Context) : HandleCalls := { handle := { snapshot } }

def step (s : HandleCalls) : HandleEvent → HandleCalls
  | .enter =>
    let (c, handle) := s.handle.checkOut
    { handle, copies := c :: s.copies }
  | .work call op => { s with copies := s.copies.modify call op.apply }
  | .leave =>
    match s.copies with
    | [] => s
    | c :: copies => { handle := s.handle.checkIn c, copies }

def run (s : HandleCalls) (events : List HandleEvent) : HandleCalls := events.foldl step s

/-- What a call is handed that begins now. -/
def handed (s : HandleCalls) : Context := s.handle.checkOut.1

/-- A call that makes no other within it. -/
theorem run_call (s : HandleCalls) (op : FocusOp) :
    s.run [.enter, .work 0 op, .leave] =
      { s with handle := (s.handle.withContext fun c => ((), op.apply c)).2 } := rfl

end HandleCalls

/-- The sketches of the copies: of the one that lies ready, and of those of open calls. -/
structure HandleSketch where
  ready : Option FocusSketch := none
  copies : List FocusSketch := []

namespace HandleSketch

/-- An event of a handle whose snapshot has a depth. -/
def step (depth : Nat) (s : HandleSketch) : HandleEvent → HandleSketch
  | .enter => { ready := none, copies := s.ready.getD (.whole depth) :: s.copies }
  | .work call op => { s with copies := s.copies.modify call op.trace }
  | .leave =>
    match s.copies with
    | [] => s
    | k :: copies => { ready := some (k.truncate depth), copies }

def run (depth : Nat) (s : HandleSketch) (events : List HandleEvent) : HandleSketch :=
  events.foldl (step depth) s

end HandleSketch

/-! ## Sketches follow the copies -/

theorem forall₂_modify {α β : Type} {r : α → β → Prop} {as : List α} {bs : List β} {f : α → α}
    {g : β → β} (h : List.Forall₂ r as bs) (i : Nat) (hfg : ∀ {a b}, r a b → r (f a) (g b)) :
    List.Forall₂ r (as.modify i f) (bs.modify i g) := by
  induction h generalizing i with
  | nil => cases i <;> exact .nil
  | cons hab hrest ih =>
    cases i with
    | zero => exact .cons (hfg hab) hrest
    | succ i => exact .cons hab (ih i)

/-- The sketches show how the copies of a handle come from its snapshot. -/
structure HandleCalls.Traced (snapshot : Context) (k : HandleSketch) (s : HandleCalls) : Prop where
  snapshot_eq : s.handle.snapshot = snapshot
  ready : Option.Rel (Context.Traced snapshot) k.ready s.handle.working
  copies : List.Forall₂ (Context.Traced snapshot) k.copies s.copies

namespace HandleCalls.Traced

variable {snapshot : Context} {k : HandleSketch} {s : HandleCalls}

theorem ofSnapshot (snapshot : Context) : Traced snapshot {} (ofSnapshot snapshot) :=
  ⟨rfl, .none, .nil⟩

theorem handed (h : Traced snapshot k s) :
    Context.Traced snapshot (k.ready.getD (.whole snapshot.depth)) s.handed := by
  have hready := h.ready
  unfold HandleCalls.handed ContextHandle.checkOut
  generalize k.ready = ready at hready
  generalize s.handle.working = working at hready
  cases hready with
  | none => exact h.snapshot_eq ▸ .whole _
  | some hcopy => exact hcopy

theorem step (h : Traced snapshot k s) (event : HandleEvent) :
    Traced snapshot (k.step snapshot.depth event) (s.step event) := by
  cases event with
  | enter => exact ⟨h.snapshot_eq, .none, .cons h.handed h.copies⟩
  | work call op =>
    exact ⟨h.snapshot_eq, h.ready, forall₂_modify h.copies call fun hcopy => hcopy.apply op⟩
  | leave =>
    have hcopies := h.copies
    unfold HandleSketch.step HandleCalls.step
    generalize hk : k.copies = sketches at hcopies
    generalize hs : s.copies = contexts at hcopies
    cases hcopies with
    | nil => exact h
    | cons hcopy hothers =>
      refine ⟨h.snapshot_eq, .some ?_, hothers⟩
      rw [h.snapshot_eq]
      exact hcopy.truncate snapshot.depth

theorem run (h : Traced snapshot k s) (events : List HandleEvent) :
    Traced snapshot (k.run snapshot.depth events) (s.run events) := by
  induction events generalizing k s with
  | nil => exact h
  | cons event events ih => exact ih (h.step event)

end HandleCalls.Traced

/-! ## What a call is handed -/

namespace HandleSketch

variable {d : Nat} {s : HandleSketch}

theorem ready_step (h : ∀ k ∈ s.ready, k.depth ≤ d) (event : HandleEvent) :
    ∀ k ∈ (s.step d event).ready, k.depth ≤ d := by
  cases event with
  | enter => simp [step]
  | work => exact h
  | leave =>
    unfold step
    cases s.copies with
    | nil => exact h
    | cons k copies => simpa using k.depth_truncate_le d

theorem ready_run (h : ∀ k ∈ s.ready, k.depth ≤ d) (events : List HandleEvent) :
    ∀ k ∈ (s.run d events).ready, k.depth ≤ d := by
  induction events generalizing s with
  | nil => exact h
  | cons event events ih => exact ih (ready_step h event)

end HandleSketch

/-- After any events a call is handed the focus of the snapshot, whatever snapshot of some depth it
is, if and only if the copy that lies ready, if there is one, has lost no entry of the snapshot. -/
theorem ContextHandle.handed_snapshot_iff (events : List HandleEvent) (d : Nat) :
    (∀ snapshot : Context, snapshot.depth = d →
      ((HandleCalls.ofSnapshot snapshot).run events).handed.focus = snapshot.focus) ↔
    ∀ k ∈ (HandleSketch.run d {} events).ready, k.kept = d := by
  let s := HandleSketch.run d {} events
  let k := s.ready.getD (.whole d)
  have hhanded (snapshot : Context) (hdepth : snapshot.depth = d) :
      ((HandleCalls.ofSnapshot snapshot).run events).handed.focus = k.above snapshot.focus := by
    subst hdepth
    exact ((HandleCalls.Traced.ofSnapshot snapshot).run events).handed.focus_eq
  have hk : k.depth ≤ d := by
    have hready : ∀ k ∈ s.ready, k.depth ≤ d := HandleSketch.ready_run (by simp) events
    cases h : s.ready with
    | none => simp [k, h, FocusSketch.whole, FocusSketch.depth]
    | some ready => simpa [k, h] using hready
  rw [FocusSketch.restores_iff hk hhanded]
  cases h : s.ready with
  | none => simp [s, k, h, FocusSketch.whole]
  | some ready => simp [s, k, h]

/-- Calls may leave entries behind, also an outer one that works while an inner one is open, and may
take off what they have put on. -/
theorem ContextHandle.handed_snapshot_iff_nested :
    let other : Focus := ⟨.string "other", 2, 3⟩
    let events : List HandleEvent := [.enter, .work 0 (.push other), .enter, .work 1 (.push other),
      .work 0 (.scope other [.pop, .push other, .push other]), .leave, .work 0 .pop, .leave]
    (∀ k ∈ (HandleSketch.run 1 {} events).ready, k.kept = 1) ∧
      ∀ snapshot : Context, snapshot.depth = 1 →
        ((HandleCalls.ofSnapshot snapshot).run events).handed.focus = snapshot.focus := by
  intro other events
  have hready : (HandleSketch.run 1 {} events).ready = some (.whole 1) := rfl
  have hkept : ∀ k ∈ (HandleSketch.run 1 {} events).ready, k.kept = 1 := by
    simp [hready, FocusSketch.whole]
  exact ⟨hkept, (handed_snapshot_iff events 1).2 hkept⟩

/-- A call takes the entry of the snapshot off its copy, and the next call is handed none. -/
theorem ContextHandle.handed_without_popped :
    let outer : Focus := ⟨.string "outer", 1, 1⟩
    let handle : ContextHandle := { snapshot := { focus := [outer] } }
    let (item, later) := handle.withContext fun c => c.pop
    let (handed, _) := later.withContext fun c => (c.focus, c)
    item = some (.string "outer") ∧ handed = [] ∧ handed ≠ later.snapshot.focus := by
  intro outer handle
  exact ⟨rfl, rfl, nofun⟩

end Grove

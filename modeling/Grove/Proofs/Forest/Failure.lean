/-
Requests that fail. What such a request leaves behind is what the requests have done that its feed
made and that were answered, and otherwise nothing but that numbers were given out and the resolver
was asked (`Forest.Fails`). Where none was answered the manager has the tables it had, and a request
of its own has cost it one number at most.

Later requests do not see that one has failed but for the numbers that are lost: they are answered
as if only the requests had been made that were answered (`Forest.GoesOnLike`). That is said of feeds
that do not look at numbers, and as long as numbers are left.

The argument follows the requests of a feed one by one, by recursion on the feed and by induction on
the depth to which feeds from the resolver may nest. A request that fails has not got to the point
where models are registered; up to there only the requests of its feed have changed a table.
-/
import Grove.Proofs.Forest.Blind
import Grove.Proofs.Tree.Recovery

namespace Grove

/-! ## What a request may do before it fails -/

namespace Manager

theorem allocate_nextId {m m' : Manager} {id : ModelId} (h : m.allocate = .ok (id, m')) :
    m'.nextId.toNat = m.nextId.toNat + 1 := by
  unfold allocate at h
  split at h
  next => simp at h
  next hroom =>
    obtain ⟨-, rfl⟩ := Prod.mk.inj (Except.ok.inj h)
    exact toNat_nextId_add_one hroom

/-- So many numbers are given out, and the resolver may have been asked. -/
inductive Counts (m : Manager) : Nat → Manager → Prop
  | none : Counts m 0 m
  | asked {n : Nat} {m' : Manager} :
      Counts m n m' → Counts m n { m' with resolverCalls := m'.resolverCalls + 1 }
  | numbered {n : Nat} {m' m'' : Manager} {id : ModelId} :
      Counts m n m' → m'.allocate = .ok (id, m'') → Counts m (n + 1) m''

variable {m₀ m m' : Manager} {log : List Event} {n : Nat}

namespace Counts

/-- The tables stay what they are. -/
theorem spec (h : m.Counts n m') :
    m' = { m with nextId := m'.nextId, resolverCalls := m'.resolverCalls } ∧
      m'.nextId.toNat = m.nextId.toNat + n := by
  induction h with
  | none => exact ⟨rfl, rfl⟩
  | @asked n m' _ ih =>
    obtain ⟨heq, hnext⟩ := ih
    exact ⟨by rw [heq], hnext⟩
  | @numbered n m' m'' id _ hid ih =>
    obtain ⟨heq, hnext⟩ := ih
    obtain ⟨-, -, hsame⟩ := allocate_eq_ok hid
    exact ⟨by rw [hsame, heq], by rw [allocate_nextId hid, hnext, Nat.add_assoc]⟩

theorem trans {k : Nat} {m'' : Manager} (h : m.Counts n m') (h' : m'.Counts k m'') :
    m.Counts (n + k) m'' := by
  induction h' with
  | none => exact h
  | asked _ ih => exact ih.asked
  | numbered _ hid ih => exact ih.numbered hid

theorem history (h : m.Counts n m') (hlog : m₀.History log m) : ∃ log', m₀.History log' m' := by
  induction h with
  | none => exact ⟨log, hlog⟩
  | asked _ ih =>
    obtain ⟨log', hlog'⟩ := ih
    exact ⟨_, hlog'.step (e := .asked) trivial .asked⟩
  | numbered _ hid ih =>
    obtain ⟨log', hlog'⟩ := ih
    exact ⟨_, hlog'.step (e := .numbered _) trivial (.numbered hid)⟩

end Counts

end Manager

namespace Forest

/-- All that has happened to a forest is that a manager has given out so many numbers, and that its
resolver may have been asked. -/
def Counts (r : ManagerRef) (n : Nat) (f f' : Forest) : Prop :=
  ∃ m m', f.manager? r = some m ∧ m.Counts n m' ∧ f' = f.setManager r m'

end Forest

/-- The feed that a request runs if it has to, and how deep feeds of the resolver may nest in it. -/
def Request.feed? (q : Request) (m : Manager) : Option (Nat × Feed) :=
  match q.source.feed with
  | some feed => some (q.depth, feed)
  | none =>
    match q.depth, q.source.systemId, m.resolver with
    | depth + 1, some key, some resolver =>
      match resolver key with
      | .ok (some feed) => some (depth, feed)
      | _ => none
    | _, _, _ => none

theorem Request.feed?_eq_some_iff {q : Request} {m : Manager} {depth : Nat} {feed : Feed} :
    q.feed? m = some (depth, feed) ↔ q.source.feed = some feed ∧ q.depth = depth ∨
      q.source.feed = none ∧ q.depth = depth + 1 ∧ ∃ key resolver, q.source.systemId = some key ∧
        m.resolver = some resolver ∧ resolver key = .ok (some feed) := by
  unfold feed?
  cases q.source.feed with
  | some own => simp [and_comm]
  | none =>
    dsimp only
    constructor
    · intro h
      split at h
      next depth' key resolver hdepth hkey hresolver =>
        split at h
        next hfound =>
          obtain ⟨rfl, rfl⟩ := Prod.mk.inj (Option.some_inj.1 h)
          exact .inr ⟨rfl, hdepth, key, resolver, hkey, hresolver, hfound⟩
        next => simp at h
      next => simp at h
    · rintro (⟨hown, -⟩ | ⟨-, hdepth, key, resolver, hkey, hresolver, hfound⟩)
      · simp at hown
      · simp [hdepth, hkey, hresolver, hfound]

/-- The forest after a request has looked for its feed. -/
def Request.search (q : Request) (f : Forest) (r : ManagerRef) (m : Manager) : Forest :=
  if q.source.feed.isSome then f else (f.resolve r m q.source.systemId).2

/-- The feed that a request runs, how deep feeds of the resolver may nest in it, and the forest in
which it starts, when a number has been given out for the model. -/
def Forest.start? (f : Forest) (r : ManagerRef) (q : Request) : Option (Nat × Feed × Forest) :=
  match f.manager? r with
  | none => none
  | some m =>
    match f.reuse? r m (if q.unique then none else q.source.systemId), q.feed? m with
    | none, some (depth, feed) =>
      let f := q.search f r m
      match ((f.manager? r).getD m).allocate with
      | .ok (id, m) =>
        if (m.factory.refusal id q.source feed).isSome then none
        else some (depth, feed, f.setManager r m)
      | .error _ => none
    | _, _ => none

/-- The requests that a feed makes, in order. -/
def Feed.requests (r : ManagerRef) (depth : Nat) : Feed → Growth → List Request
  | .finish _, _ => []
  | .report event next, g =>
    match g.builder.refusal? event with
    | none => requests r depth (next (.ok ())) { g with builder := g.builder.take event }
    | some e => requests r depth (next (.error e)) { g with builder := g.builder.refuse event }
  | .request source unique next, g =>
    let (answer, after) := answerRequest g (g.forest.serve r ⟨depth, source, unique⟩)
    ⟨depth, source, unique⟩ :: requests r depth (next answer) after
  termination_by structural feed => feed

namespace Forest

/-- What some requests leave behind, one after the other, and which requests have done it: those
that were answered. Of a request that fails nothing stays but what the requests of its feed leave
behind. -/
inductive Leaves (r : ManagerRef) : List Request → Forest → List Request → Forest → Prop
  | nil {f : Forest} : Leaves r [] f [] f
  | answered {q : Request} {qs done : List Request} {f f' : Forest} {ref : ModelRef} :
      (f.serve r q).1.outcome = .ok ref → Leaves r qs (f.serve r q).2 done f' →
      Leaves r (q :: qs) f (q :: done) f'
  /-- The request fails before it runs a feed. -/
  | refused {q : Request} {qs done : List Request} {f f' : Forest} {e : TreeError} {n : Nat} :
      (f.serve r q).1.outcome = .error e → f.start? r q = none → n ≤ 1 → Counts r n f (f.serve r q).2 →
      Leaves r qs (f.serve r q).2 done f' → Leaves r (q :: qs) f done f'
  /-- The request fails after it has started a feed. -/
  | abandoned {q : Request} {qs inner done : List Request} {f f₁ f' : Forest} {e : TreeError}
      {depth : Nat} {feed : Feed} :
      (f.serve r q).1.outcome = .error e → f.start? r q = some (depth, feed, f₁) → Counts r 1 f f₁ →
      Leaves r (feed.requests r depth (Model.scratch f₁)) f₁ inner (f.serve r q).2 →
      Leaves r qs (f.serve r q).2 done f' → Leaves r (q :: qs) f (inner ++ done) f'

/-- What a request leaves behind that fails, and which requests have done it. -/
def Fails (r : ManagerRef) (q : Request) (f : Forest) (done : List Request) (f' : Forest) : Prop :=
  match f.start? r q with
  | none => done = [] ∧ ∃ n ≤ 1, Counts r n f f'
  | some (depth, feed, f₁) =>
    Counts r 1 f f₁ ∧ Leaves r (feed.requests r depth (Model.scratch f₁)) f₁ done f'

variable {r : ManagerRef} {f f' : Forest} {m : Manager}

theorem feed?_of_start? {q : Request} {depth : Nat} {feed : Feed} {f₁ : Forest}
    (h : f.start? r q = some (depth, feed, f₁)) : ∃ m, q.feed? m = some (depth, feed) := by
  unfold start? at h
  split at h
  next => simp at h
  next m hm =>
    refine ⟨m, ?_⟩
    split at h
    next depth' feed' hreuse hfeed =>
      dsimp only at h
      split at h
      next =>
        split at h
        next => simp at h
        next =>
          obtain ⟨rfl, rfl, -⟩ : depth' = depth ∧ feed' = feed ∧ _ := by simpa using h
          exact hfeed
      next => simp at h
    next => simp at h

theorem Counts.refl (hm : f.manager? r = some m) : Counts r 0 f f :=
  ⟨m, m, hm, .none, (setManager_same hm).symm⟩

theorem Counts.manager? {n : Nat} (h : Counts r n f f') : ∃ m, f'.manager? r = some m := by
  obtain ⟨m, m', hm, -, rfl⟩ := h
  exact ⟨m', manager?_setManager hm⟩

theorem Counts.trans {n k : Nat} {f'' : Forest} (h : Counts r n f f') (h' : Counts r k f' f'') :
    Counts r (n + k) f f'' := by
  obtain ⟨m, m', hm, hcounts, rfl⟩ := h
  obtain ⟨held, m'', hheld, hcounts', rfl⟩ := h'
  obtain rfl := Option.some_inj.1 ((manager?_setManager hm).symm.trans hheld)
  exact ⟨m, m'', hm, hcounts.trans hcounts', setManager_setManager ..⟩

theorem counts_resolve (hm : f.manager? r = some m) (systemId : Option String) :
    Counts r 0 f (f.resolve r m systemId).2 := by
  unfold resolve
  split
  · exact .refl hm
  split
  · exact .refl hm
  · dsimp only
    split <;> exact ⟨m, _, hm, .asked .none, rfl⟩

theorem Counts.numbered {n : Nat} {f₁ : Forest} {m₁ m₂ : Manager} {id : ModelId} (h : Counts r n f f₁)
    (hm₁ : f₁.manager? r = some m₁) (hid : m₁.allocate = .ok (id, m₂)) :
    Counts r (n + 1) f (f₁.setManager r m₂) := by
  obtain ⟨m, m', hm, hcounts, rfl⟩ := h
  obtain rfl := Option.some_inj.1 ((manager?_setManager hm).symm.trans hm₁)
  exact ⟨m, m₂, hm, hcounts.numbered hid, setManager_setManager ..⟩

/-- A request finds the feed it is to run, or it finds none that may run. -/
theorem finding_cases (hm : f.manager? r = some m) (q : Request)
    {found : Except TreeError Producer} {f₁ : Forest}
    (hfound : Feed.finding r (Feed.own (Feed.run r q.depth) q.source) (Feed.supply r q.depth)
      q.source.systemId f m = (found, f₁)) :
    f₁ = q.search f r m ∧ Counts r 0 f f₁ ∧
      ((∃ depth feed, q.feed? m = some (depth, feed) ∧ found = .ok ⟨feed, Feed.run r depth feed⟩) ∨
        q.feed? m = none ∧ ∀ producer, found = .ok producer → ∀ g, (producer.run g).2 = g) := by
  obtain ⟨depth, ⟨systemId, own, sizeHint⟩, unique⟩ := q
  cases own with
  | some feed =>
    obtain ⟨rfl, rfl⟩ := Prod.mk.inj hfound
    exact ⟨rfl, .refl hm, .inl ⟨depth, feed, rfl, rfl⟩⟩
  | none =>
    have hcounts := counts_resolve hm systemId
    have hfeed : ∀ depth' feed, (⟨depth, .make systemId none sizeHint, unique⟩ : Request).feed? m =
        some (depth', feed) ↔ depth = depth' + 1 ∧ (f.resolve r m systemId).1 = .ok feed := by
      intro depth' feed
      rw [Request.feed?_eq_some_iff, resolve_eq_ok_iff]
      simp [Source.feed, Source.systemId]
    have hsearch : (⟨depth, .make systemId none sizeHint, unique⟩ : Request).search f r m =
      (f.resolve r m systemId).2 := rfl
    rw [hsearch]
    simp only [Feed.finding, Feed.own, Source.feed, Source.systemId, Option.map_none] at hfound
    generalize f.resolve r m systemId = resolved at hcounts hfeed hfound ⊢
    obtain ⟨result, f₁⟩ := resolved
    cases result with
    | error e =>
      obtain ⟨rfl, rfl⟩ := Prod.mk.inj hfound
      refine ⟨rfl, hcounts, .inr ⟨Option.eq_none_iff_forall_ne_some.2 fun found h => ?_, by simp⟩⟩
      simpa using ((hfeed found.1 found.2).1 h).2
    | ok feed =>
      obtain ⟨rfl, rfl⟩ := Prod.mk.inj hfound
      refine ⟨rfl, hcounts, ?_⟩
      cases depth with
      | zero =>
        refine .inr ⟨Option.eq_none_iff_forall_ne_some.2 fun found h => ?_, fun producer heq g => ?_⟩
        · exact absurd ((hfeed found.1 found.2).1 h).1 (Nat.succ_ne_zero _).symm
        · cases heq
          rfl
      | succ depth => exact .inl ⟨depth, feed, (hfeed depth feed).2 ⟨rfl, rfl⟩, rfl⟩

/-- A model is to be made: there is no number for it, or no tree is to be built, or a feed starts. Which
of them it is does not depend on what the implementation says of the model that is built. -/
theorem make_cases {f₁ : Forest} {m₁ : Manager} (hcounts : Counts r 0 f f₁) (hm₁ : f₁.manager? r = some m₁)
    (source : Source) (producer : Producer) :
    (∀ id m₂, m₁.allocate = .ok (id, m₂) → (m₂.factory.refusal id source producer.feed).isSome = true) ∧
        (∃ n ≤ 1, Counts r n f (f₁.make r m₁ source producer).2.forest) ∨
      ∃ id m₂, m₁.allocate = .ok (id, m₂) ∧ m₂.factory.refusal id source producer.feed = none ∧
        Counts r 1 f (f₁.setManager r m₂) ∧ (f₁.make r m₁ source producer).2.forest =
          (producer.run (Model.scratch (f₁.setManager r m₂))).2.forest := by
  unfold make
  cases hid : m₁.allocate with
  | error e => exact .inl ⟨by simp, 0, Nat.zero_le 1, hcounts⟩
  | ok numbered =>
    obtain ⟨id, m₂⟩ := numbered
    have hnumbered := hcounts.numbered hm₁ hid
    dsimp only
    cases hrefusal : m₂.factory.refusal id source producer.feed with
    | some e =>
      refine .inl ⟨fun id' m' heq => ?_, 1, Nat.le_refl 1, hnumbered⟩
      obtain ⟨rfl, rfl⟩ := Prod.mk.inj (Except.ok.inj heq)
      simp [hrefusal]
    | none => exact .inr ⟨id, m₂, rfl, hrefusal, hnumbered, build_forest ..⟩

/-- How a request fails. -/
theorem serve_of_error {q : Request} {e : TreeError} (hm : f.manager? r = some m)
    (h : (f.serve r q).1.outcome = .error e) :
    f.start? r q = none ∧ (∃ n ≤ 1, Counts r n f (f.serve r q).2) ∨
      ∃ depth feed f₁, f.start? r q = some (depth, feed, f₁) ∧ Counts r 1 f f₁ ∧
        (f.serve r q).2 = (feed.run r depth (Model.scratch f₁)).2.forest := by
  unfold serve answer at h ⊢
  unfold start?
  simp only [hm] at h ⊢
  cases hreuse : f.reuse? r m (if q.unique = true then none else q.source.systemId) with
  | some reused => simp [hreuse] at h
  | none =>
    cases hfound : Feed.finding r (Feed.own (Feed.run r q.depth) q.source) (Feed.supply r q.depth)
        q.source.systemId f m with
    | mk found f₁ =>
    obtain ⟨hsearch, hcounts, hrun⟩ := finding_cases hm q hfound
    obtain ⟨m₁, hm₁⟩ := hcounts.manager?
    simp only [hreuse, hfound, ← hsearch, hm₁, Option.getD_some] at h ⊢
    cases found with
    | error e =>
      have hfeed : q.feed? m = none := hrun.elim (by simp) And.left
      exact .inl ⟨by rw [hfeed], 0, Nat.zero_le 1, hcounts⟩
    | ok producer =>
      have hmade := make_cases hcounts hm₁ q.source producer
      simp only [hm₁, Option.getD_some] at h ⊢
      generalize f₁.make r m₁ q.source producer = made at h hmade ⊢
      obtain ⟨result, g⟩ := made
      cases result with
      | ok model => simp at h
      | error e =>
        -- nothing was registered: the forest is the one that making the model left
        rcases hrun with ⟨depth, feed, hfeed, heq⟩ | ⟨hfeed, hnothing⟩
        · obtain rfl := Except.ok.inj heq
          rcases hmade with ⟨hstopped, hmade⟩ | ⟨id, m₂, hid, hrefusal, hnumbered, hmade⟩
          · refine .inl ⟨?_, hmade⟩
            cases hid : m₁.allocate with
            | error e => simp [hfeed]
            | ok numbered => simp [hfeed, hstopped numbered.1 numbered.2 hid]
          · exact .inr ⟨depth, feed, _, by simp [hfeed, hid, hrefusal], hnumbered, hmade⟩
        · refine .inl ⟨by rw [hfeed], ?_⟩
          rcases hmade with ⟨-, hmade⟩ | ⟨id, m₂, hid, hrefusal, hnumbered, hmade⟩
          · exact hmade
          · rw [hnothing producer rfl] at hmade
            have hcounted : Counts r 1 f g.forest := hmade ▸ hnumbered
            exact ⟨1, Nat.le_refl 1, hcounted⟩

end Forest

/-! ## All that a request leaves behind -/

namespace Forest

variable {r : ManagerRef} {f f₁ f' : Forest} {m m₀ : Manager} {log : List Manager.Event} {q : Request}
  {qs done : List Request}

theorem Counts.logged {n : Nat} (h : Counts r n f f₁) (hlog : f.Logged m₀ r log) :
    ∃ log', f₁.Logged m₀ r log' := by
  obtain ⟨m, m₁, hm, hcounts, rfl⟩ := h
  obtain ⟨held, hheld, hhistory⟩ := hlog
  obtain rfl := Option.some_inj.1 (hm.symm.trans hheld)
  obtain ⟨log', hlog'⟩ := hcounts.history hhistory
  exact ⟨log', m₁, manager?_setManager hm, hlog'⟩

theorem Logged.serve (hlog : f.Logged m₀ r log) (q : Request) : ∃ log', (f.serve r q).2.Logged m₀ r log' := by
  have htold := Feed.tells_tale q.depth (.request q.source q.unique fun _ => .nothing)
    (Model.scratch f) log hlog
  rw [Feed.run_request, Feed.nothing, Feed.run_eq, Feed.runWith] at htold
  exact ⟨_, htold.logged⟩

/-- What the feed of a request leaves behind is taken as given, and what the requests do that come
after it. -/
theorem exists_leaves_cons (hm : f.manager? r = some m)
    (hfeed : ∀ depth feed f₁, f.start? r q = some (depth, feed, f₁) → Counts r 1 f f₁ →
      ∃ inner, Leaves r (feed.requests r depth (Model.scratch f₁)) f₁ inner
        (feed.run r depth (Model.scratch f₁)).2.forest)
    (hrest : Leaves r qs (f.serve r q).2 done f') : ∃ done', Leaves r (q :: qs) f done' f' := by
  cases hout : (f.serve r q).1.outcome with
  | ok ref => exact ⟨_, .answered hout hrest⟩
  | error e =>
    rcases serve_of_error hm hout with ⟨hstart, n, hn, hcounts⟩ | ⟨depth, feed, f₁, hstart, hcounts, heq⟩
    · exact ⟨_, .refused hout hstart hn hcounts hrest⟩
    · obtain ⟨inner, hinner⟩ := hfeed depth feed f₁ hstart hcounts
      rw [← heq] at hinner
      exact ⟨_, .abandoned hout hstart hcounts hinner hrest⟩

end Forest

namespace Feed

open Forest (Leaves)

variable {r : ManagerRef} {m₀ : Manager}

/-- A feed leaves behind what its requests do. -/
def ActsByRequests (m₀ : Manager) (r : ManagerRef) (depth : Nat) (feed : Feed) : Prop :=
  ∀ g log, g.forest.Logged m₀ r log →
    ∃ done, Leaves r (feed.requests r depth g) g.forest done (feed.run r depth g).2.forest

theorem actsByRequests_of {depth : Nat}
    (hsupplied : ∀ depth', depth = depth' + 1 → ∀ feed : Feed, feed.ActsByRequests m₀ r depth') :
    ∀ feed : Feed, feed.ActsByRequests m₀ r depth
  | .finish _, g, log, hlog => by
    rw [run_eq, runWith, requests]
    exact ⟨[], .nil⟩
  | .report event next, g, log, hlog => by
    rw [requests]
    cases hevent : g.builder.refusal? event with
    | none =>
      rw [run_report_of_taken hevent]
      exact actsByRequests_of hsupplied (next (.ok ())) { g with builder := g.builder.take event } log hlog
    | some e =>
      rw [run_report_of_refused hevent]
      exact actsByRequests_of hsupplied (next (.error e)) { g with builder := g.builder.refuse event } log hlog
  | .request (.make systemId own sizeHint) unique next, g, log, hlog => by
    obtain ⟨m, hm, -⟩ := id hlog
    obtain ⟨log', hlog'⟩ := hlog.serve ⟨depth, .make systemId own sizeHint, unique⟩
    rw [run_request, requests]
    obtain ⟨done, hrest⟩ := actsByRequests_of hsupplied (next _) (answerRequest g _).2 log' hlog'
    refine Forest.exists_leaves_cons hm (fun depth' feed f₁ hstart hcounts => ?_) hrest
    obtain ⟨log₁, hlog₁⟩ := hcounts.logged hlog
    obtain ⟨m', hfeed⟩ := Forest.feed?_of_start? hstart
    -- the feed that starts is that of the source, which is smaller, or one of the resolver, which
    -- is a level deeper
    cases own with
    | some own =>
      obtain ⟨hown, rfl⟩ | ⟨hown, -⟩ := Request.feed?_eq_some_iff.1 hfeed
      · obtain rfl := Option.some_inj.1 hown
        exact actsByRequests_of hsupplied own (Model.scratch f₁) log₁ hlog₁
      · simp [Source.feed] at hown
    | none =>
      obtain ⟨hown, -⟩ | ⟨-, hdepth, -⟩ := Request.feed?_eq_some_iff.1 hfeed
      · simp [Source.feed] at hown
      · exact hsupplied depth' hdepth feed (Model.scratch f₁) log₁ hlog₁
  termination_by structural feed => feed

theorem actsByRequests : ∀ (depth : Nat) (feed : Feed), feed.ActsByRequests m₀ r depth
  | 0, feed => actsByRequests_of (fun _ hdepth => absurd hdepth (Nat.succ_ne_zero _).symm) feed
  | depth + 1, feed => actsByRequests_of
      (fun _ hdepth => Nat.succ_inj.1 hdepth ▸ actsByRequests depth) feed

end Feed

namespace Forest

variable {r : ManagerRef} {f f' : Forest} {m₀ : Manager} {log : List Manager.Event}

/-- A request leaves behind what it does, or, where it fails, what the requests of its feed do. -/
theorem Logged.exists_leaves (hlog : f.Logged m₀ r log) (q : Request) :
    ∃ done, Leaves r [q] f done (f.serve r q).2 := by
  obtain ⟨m, hm, -⟩ := id hlog
  refine exists_leaves_cons hm (fun depth feed f₁ _ hcounts => ?_) .nil
  obtain ⟨log₁, hlog₁⟩ := hcounts.logged hlog
  exact feed.actsByRequests depth (Model.scratch f₁) log₁ hlog₁

namespace Leaves

variable {qs done : List Request}

theorem logged (h : Leaves r qs f done f') (hlog : f.Logged m₀ r log) : ∃ log', f'.Logged m₀ r log' := by
  induction h generalizing log with
  | nil => exact ⟨log, hlog⟩
  | @answered q _ _ _ _ _ _ _ ih =>
    obtain ⟨log', hlog'⟩ := hlog.serve q
    exact ih hlog'
  | @refused q _ _ _ _ _ _ _ _ _ _ _ ih =>
    obtain ⟨log', hlog'⟩ := hlog.serve q
    exact ih hlog'
  | @abandoned q _ _ _ _ _ _ _ _ _ _ _ _ _ _ _ ih =>
    obtain ⟨log', hlog'⟩ := hlog.serve q
    exact ih hlog'

theorem hasRoom (h : Leaves r qs f done f') (hroom : f'.HasRoom r) : f.HasRoom r :=
  hasRoom_of_logged (fun _ hm => h.logged ⟨_, hm, .start⟩) hroom

/-- Where no request was answered nothing is left behind. -/
theorem counts_of_nil (h : Leaves r qs f done f') (hdone : done = []) (hm : ∃ m, f.manager? r = some m) :
    ∃ n, Counts r n f f' := by
  induction h with
  | nil => exact ⟨0, .refl hm.choose_spec⟩
  | answered => simp at hdone
  | refused _ _ _ hcounts _ ih =>
    obtain ⟨n, hrest⟩ := ih hdone hcounts.manager?
    exact ⟨_, hcounts.trans hrest⟩
  | abandoned _ _ hcounts _ _ ihinner ih =>
    obtain ⟨hinner, hdone⟩ := List.append_eq_nil_iff.1 hdone
    obtain ⟨n, hleft⟩ := ihinner hinner hcounts.manager?
    have habandoned := hcounts.trans hleft
    obtain ⟨k, hrest⟩ := ih hdone habandoned.manager?
    exact ⟨_, habandoned.trans hrest⟩

/-- Which requests it is that were answered is determined. -/
theorem unique {done' : List Request} {f'' : Forest} (h : Leaves r qs f done f')
    (h' : Leaves r qs f done' f'') : done = done' := by
  induction h generalizing done' f'' with
  | nil =>
    cases h'
    rfl
  | answered hout _ ih =>
    cases h' with
    | answered _ hrest => rw [ih hrest]
    | refused hfailed => simp [hout] at hfailed
    | abandoned hfailed => simp [hout] at hfailed
  | refused hout hstart _ _ _ ih =>
    cases h' with
    | answered hanswered => simp [hout] at hanswered
    | refused _ _ _ _ hrest => exact ih hrest
    | abandoned _ hstarted => simp [hstart] at hstarted
  | abandoned hout hstart _ _ _ ihinner ih =>
    cases h' with
    | answered hanswered => simp [hout] at hanswered
    | refused _ hstopped => simp [hstart] at hstopped
    | abandoned _ hstart' _ hinner hrest =>
      obtain ⟨rfl, rfl, rfl⟩ : _ ∧ _ ∧ _ := by simpa [hstart] using hstart'
      rw [ihinner hinner, ih hrest]

theorem fails {q : Request} {e : TreeError} (h : Leaves r [q] f done (f.serve r q).2)
    (herror : (f.serve r q).1.outcome = .error e) : Fails r q f done (f.serve r q).2 := by
  unfold Fails
  cases h with
  | answered hanswered => simp [herror] at hanswered
  | refused _ hstart hn hcounts hrest =>
    rw [hstart]
    cases hrest
    exact ⟨rfl, _, hn, hcounts⟩
  | abandoned _ hstart hcounts hinner hrest =>
    rw [hstart]
    cases hrest
    exact ⟨hcounts, by simpa using hinner⟩

end Leaves

theorem Fails.unique {q : Request} {done done' : List Request} {f'' : Forest} (h : Fails r q f done f')
    (h' : Fails r q f done' f'') : done = done' := by
  unfold Fails at h h'
  cases hstart : f.start? r q with
  | none =>
    rw [hstart] at h h'
    rw [h.1, h'.1]
  | some started =>
    rw [hstart] at h h'
    exact h.2.unique h'.2

/-! ## What happens later -/

/-- Other numbers for the same models: those that were given out before stay what they are. -/
def Keeps (r : ManagerRef) (f : Forest) (ρ ρ' : ModelId → ModelId) : Prop :=
  ∀ m, f.manager? r = some m → ∀ id, (ρ id).val < m.nextId → ρ' id = ρ id

variable {g : Forest} {ρ ρ₁ ρ₂ : ModelId → ModelId} {f₁ : Forest}

theorem Keeps.refl (r : ManagerRef) (f : Forest) (ρ : ModelId → ModelId) : Keeps r f ρ ρ :=
  fun _ _ _ _ => rfl

theorem Keeps.trans (h : Keeps r f ρ ρ₁) (h' : Keeps r f₁ ρ₁ ρ₂)
    (hlater : ∀ m, f.manager? r = some m → ∃ log, f₁.Logged m r log) : Keeps r f ρ ρ₂ := by
  intro m hm id hid
  obtain ⟨log, m₁, hm₁, hhistory⟩ := hlater m hm
  have hsame := h m hm id hid
  rw [← hsame]
  exact h' m₁ hm₁ id (UInt32.lt_of_lt_of_le (hsame ▸ hid) hhistory.nextId_le)

variable {factory : Factory} {resolver : Option Resolver} {capacity : Nat}

theorem Counts.renumbers {n : Nat} (h : Counts r n f f')
    (hlog : f.Logged (Manager.ofFactory factory resolver capacity) r log) (hρ : Function.Injective ρ)
    (hg : g.Renumbers r ρ f) :
    ∃ ρ', Function.Injective ρ' ∧ g.Renumbers r ρ' f' ∧ Keeps r f ρ ρ' := by
  obtain ⟨m', m'', hm', hcounts, rfl⟩ := h
  obtain ⟨held, hheld, hhistory⟩ := hlog
  obtain rfl := Option.some_inj.1 (hm'.symm.trans hheld)
  obtain ⟨m, _, hm, hsame, hrenumbers⟩ := hg.manager?
  obtain rfl := Option.some_inj.1 (hm'.symm.trans hsame)
  obtain ⟨heq, hnext⟩ := hcounts.spec
  have hle : m'.nextId.toNat ≤ m''.nextId.toNat := hnext ▸ Nat.le_add_right _ _
  refine ⟨ModelId.skip m'.nextId m''.nextId ∘ ρ, (ModelId.skip_injective _ _).comp hρ, ?_, ?_⟩
  · obtain ⟨n, n', hn, -, rfl⟩ := hg
    refine ⟨m, m'', hm, ?_, setManager_setManager ..⟩
    rw [heq]
    exact hrenumbers.skip hhistory.sound.1 hle _
  · intro n hn id hid
    obtain rfl := Option.some_inj.1 (hm'.symm.trans hn)
    exact ModelId.skip_of_lt hid

/-- Requests leave behind what those of them do that were answered, but for numbers. -/
theorem Leaves.renumbers {qs done : List Request} (h : Leaves r qs f done f')
    (hlog : f.Logged (Manager.ofFactory factory resolver capacity) r log) (hρ : Function.Injective ρ)
    (hg : g.Renumbers r ρ f) (hblind : ∀ q ∈ done, q.source.Blind) (hroom : f'.HasRoom r) :
    ∃ ρ', Function.Injective ρ' ∧ (done.foldl (fun g q => (g.serve r q).2) g).Renumbers r ρ' f' ∧
      Keeps r f ρ ρ' := by
  induction h generalizing g ρ log with
  | nil => exact ⟨ρ, hρ, hg, Keeps.refl r _ ρ⟩
  | @answered q qs done f f' ref hout hrest ih =>
    obtain ⟨hq, hblind⟩ := List.forall_mem_cons.1 hblind
    obtain ⟨log', hlog'⟩ := hlog.serve q
    have hserved := (hg.serve hρ hq (hrest.hasRoom hroom)).2
    obtain ⟨ρ', hρ', hafter, hkeeps⟩ := ih hlog' hρ hserved hblind hroom
    exact ⟨ρ', hρ', hafter, (Keeps.refl r f ρ).trans hkeeps fun _ hm => Logged.serve ⟨_, hm, .start⟩ q⟩
  | @refused q qs done f f' e n hout hstart hn hcounts hrest ih =>
    -- numbers are lost in one forest only, and the function changes from there on
    obtain ⟨ρ₁, hρ₁, hg₁, hkeeps₁⟩ := hcounts.renumbers hlog hρ hg
    obtain ⟨log', hlog'⟩ := hlog.serve q
    obtain ⟨ρ', hρ', hafter, hkeeps⟩ := ih hlog' hρ₁ hg₁ hblind hroom
    exact ⟨ρ', hρ', hafter, hkeeps₁.trans hkeeps fun _ hm => Logged.serve ⟨_, hm, .start⟩ q⟩
  | @abandoned q qs inner done f f₁ f' e depth feed hout hstart hcounts hinner hrest ihinner ih =>
    rw [List.forall_mem_append] at hblind
    obtain ⟨ρ₁, hρ₁, hg₁, hkeeps₁⟩ := hcounts.renumbers hlog hρ hg
    obtain ⟨log₁, hlog₁⟩ := hcounts.logged hlog
    obtain ⟨ρ₂, hρ₂, hg₂, hkeeps₂⟩ := ihinner hlog₁ hρ₁ hg₁ hblind.1 (hrest.hasRoom hroom)
    obtain ⟨log₂, hlog₂⟩ := hlog.serve q
    obtain ⟨ρ', hρ', hafter, hkeeps⟩ := ih hlog₂ hρ₂ hg₂ hblind.2 hroom
    have hbefore := hkeeps₁.trans hkeeps₂ fun _ hm => hcounts.logged ⟨_, hm, .start⟩
    rw [List.foldl_append]
    exact ⟨ρ', hρ', hafter, hbefore.trans hkeeps fun _ hm => Logged.serve ⟨_, hm, .start⟩ q⟩

/-- All goes on in one forest as in another one but for numbers, as long as numbers are left: the same
is done with a manager and with its models, and then it is asked for a model. -/
def GoesOnLike (r : ManagerRef) (ρ : ModelId → ModelId) (f f' : Forest) : Prop :=
  ∀ ops : List Operation, (∀ op ∈ ops, op.Blind) → ∀ (source : Source) (unique : Bool), source.Blind →
    let before := ops.foldl (perform r) f
    let after := (ops.map (Operation.renumber ρ)).foldl (perform r) f'
    (after.create r source unique).2.HasRoom r →
    (after.create r source unique).1 = (before.create r source unique).1.renumber ρ ∧
      (before.create r source unique).2.Renumbers r ρ (after.create r source unique).2

theorem Renumbers.goesOnLike (h : f.Renumbers r ρ f') (hρ : Function.Injective ρ) :
    GoesOnLike r ρ f f' := by
  intro ops hblind source unique hsource before after hroom
  have hafter : after.HasRoom r :=
    hasRoom_of_perform (show (after.perform r (.create source unique)).HasRoom r from hroom)
  exact (h.operations hρ hblind hafter).create hρ unique hsource hroom

namespace Reachable

variable {config : ManagerConfig} {issued : List ModelRef} {m : Manager}

/-- A request that fails, for whatever reason, changes nothing apart from what requests do that its feed
made and that were answered. If there are none, the manager has the tables it had, and has lost numbers
at most; so every later request, of whatever feed, finds it as if those numbers alone had been given out.
If neither feeds nor the implementation look at numbers, all goes on as if nothing but these requests had
been made, and models that were there before keep their numbers. -/
theorem failed_create_changes_nothing (h : Reachable r config issued f) (hm : f.manager? r = some m)
    {source : Source} {unique : Bool} {e : TreeError}
    (herror : (f.create r source unique).1.outcome = .error e) :
    ∃ done, Fails r (outerRequest source unique) f done (f.create r source unique).2 ∧
      (done = [] → ∃ next calls, m.nextId ≤ next ∧ (f.create r source unique).2 =
        f.setManager r { m with nextId := next, resolverCalls := calls }) ∧
      (m.factory.Blind → (∀ resolver, m.resolver = some resolver → resolver.Blind) →
        (∀ q ∈ done, q.source.Blind) → (f.create r source unique).2.HasRoom r →
        ∃ ρ, Function.Injective ρ ∧ (∀ id, id.val < m.nextId → ρ id = id) ∧
          (done.foldl (fun g q => (g.serve r q).2) f).Renumbers r ρ (f.create r source unique).2 ∧
          GoesOnLike r ρ (done.foldl (fun g q => (g.serve r q).2) f) (f.create r source unique).2) := by
  obtain ⟨factory, log, hlog, -⟩ := h.logged
  rw [create_eq_serve] at herror ⊢
  obtain ⟨done, hleaves⟩ := hlog.exists_leaves (outerRequest source unique)
  refine ⟨done, hleaves.fails herror, fun hdone => ?_, fun himpartial hresolver hblind hroom => ?_⟩
  · obtain ⟨n, held, m', hheld, hcounts, heq⟩ := hleaves.counts_of_nil hdone ⟨m, hm⟩
    obtain rfl := Option.some_inj.1 (hm.symm.trans hheld)
    obtain ⟨hsame, hnext⟩ := hcounts.spec
    refine ⟨m'.nextId, m'.resolverCalls, ?_, heq.trans (congrArg _ hsame)⟩
    rw [UInt32.le_iff_toNat_le]
    omega
  · obtain ⟨ρ, hρ, hrenumbers, hkeeps⟩ :=
      hleaves.renumbers hlog Function.injective_id (.refl hm himpartial hresolver) hblind hroom
    exact ⟨ρ, hρ, hkeeps m hm, hrenumbers, hrenumbers.goesOnLike hρ⟩

/-- A document with one comment. -/
def note (key : String) : Source := .make (some key) (some (.ofEvents [.comment key])) none

theorem blind_note (key : String) : (note key).Blind := (Feed.blind_ofEventsThen _ _).source _ _

/-- A source whose feed has another document made first, and then reports nothing. -/
def bare : Source := .make (some "k") (some (.requestFirst (note "a") false .nothing)) none

/-- An implementation that gives no document that is empty. -/
def choosy : Factory where
  name := "choosy"
  rejection _ _ built :=
    match built with
    | .ok m => if m.size = 1 then some (.unsupported "an empty document") else none
    | .error _ => none

theorem blind_choosy : choosy.Blind where
  refusal _ _ _ _ := rfl
  rejection _ _ _ built := by cases built <;> rfl
  fragmentRefusal _ _ := rfl

def untouched : Forest := { managers := #[.ofFactory choosy none defaultPoolCapacity] }

/-- The implementation rejects what its feed has come to. The other document is there, and number zero is
lost: a later document of the same system identifier has number two and not number one. -/
theorem failed_create_changes_nothing_rejected :
    Reachable ⟨0⟩ { selector := .chosen choosy } [] untouched ∧
    untouched.manager? ⟨0⟩ = some (.ofFactory choosy none defaultPoolCapacity) ∧
    (untouched.create ⟨0⟩ bare false).1.outcome = .error (.unsupported "an empty document") ∧
    Fails ⟨0⟩ (outerRequest bare false) untouched [⟨resolverDepth, note "a", false⟩]
      (untouched.create ⟨0⟩ bare false).2 ∧
    ∃ ρ, Function.Injective ρ ∧
      (untouched.create ⟨0⟩ (note "a") false).2.Renumbers ⟨0⟩ ρ (untouched.create ⟨0⟩ bare false).2 ∧
      ((untouched.create ⟨0⟩ bare false).2.create ⟨0⟩ (note "k") false).1 =
        ((untouched.create ⟨0⟩ (note "a") false).2.create ⟨0⟩ (note "k") false).1.renumber ρ ∧
      ((untouched.create ⟨0⟩ bare false).2.create ⟨0⟩ (note "k") false).1.outcome =
        .ok ⟨1, ⟨2⟩, some "k", false⟩ ∧
      ((untouched.create ⟨0⟩ (note "a") false).2.create ⟨0⟩ (note "k") false).1.outcome =
        .ok ⟨1, ⟨1⟩, some "k", false⟩ := by
  have hstart : Reachable ⟨0⟩ { selector := .chosen choosy } [] untouched := .start rfl rfl
  have herror : (untouched.create ⟨0⟩ bare false).1.outcome =
    .error (.unsupported "an empty document") := rfl
  have hfails : Fails ⟨0⟩ (outerRequest bare false) untouched [⟨resolverDepth, note "a", false⟩]
      (untouched.create ⟨0⟩ bare false).2 :=
    ⟨⟨_, _, rfl, .numbered .none rfl, rfl⟩,
      .answered (rfl : _ = Except.ok (⟨0, ⟨1⟩, some "a", false⟩ : ModelRef)) .nil⟩
  obtain ⟨done, hdone, -, hlater⟩ := hstart.failed_create_changes_nothing rfl herror
  obtain rfl := hdone.unique hfails
  have hroom : ∀ {f : Forest} {n : UInt32}, (f.manager? ⟨0⟩).map (·.nextId) = some n → n < 4 →
      HasRoom ⟨0⟩ f := by
    intro f n hn hlt m hm hmax
    rw [hm, Option.map_some, Option.some_inj] at hn
    rw [← hn, hmax] at hlt
    exact absurd hlt (by decide)
  obtain ⟨ρ, hρ, -, hrenumbers, hlike⟩ := hlater blind_choosy (fun _ hresolver => by cases hresolver)
    (by simpa using blind_note "a") (hroom (n := 2) rfl (by decide))
  have hnote := hlike [] (by simp) (note "k") false (blind_note "k") (hroom (n := 3) rfl (by decide))
  exact ⟨hstart, rfl, herror, hfails, ρ, hρ, hrenumbers, hnote.1, rfl, rfl⟩

end Reachable

end Forest

end Grove

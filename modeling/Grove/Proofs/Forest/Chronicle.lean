/-
What happens to a manager while a forest does something, told event by event: the events of
an operation are a list, the latest first, in which those of nested requests stand between
the number that a request takes and the registration of its model. `Forest.Logged` says that
a list of events is what led to the manager of a forest; each operation adds its own
(`Logged.create`, `Logged.createFragment`, `Logged.release`), and the last event of a request
is its answer.

The argument for feeds is by recursion on the feed, whose requests run the feeds their
sources carry, and by induction on the depth to which feeds from the resolver may nest.
-/
import Grove.Proofs.Forest.Ledger
import Grove.Proofs.Forest.Reply

namespace Grove

open Manager (Event Step History Requests)

/-- What happens to a manager while a feed runs from a given state on. -/
abbrev Tale := Growth → List Event

/-! ## The events of an operation -/

namespace Forest

def resolveEvents (m : Manager) (systemId : Option String) : List Event :=
  match systemId, m.resolver with
  | some _, some _ => [.asked]
  | _, _ => []

/-- A request is answered with a model that is there. -/
def reuseEvents (m : Manager) (key : Option String) (given : ModelRef) : List Event :=
  match key with
  | none => []
  | some k => if (m.shared? k).isSome then [.shared k given] else [.revived k given]

/-- A model is made by a feed with the given tale. -/
def makeEvents (f : Forest) (r : ManagerRef) (m : Manager) (source : Source) (feed : Feed)
    (tale : Tale) : List Event :=
  match m.allocate with
  | .error _ => []
  | .ok (id, m) =>
    match m.factory.refusal id source feed with
    | some _ => [.numbered id]
    | none =>
      tale { forest := f.setManager r m, builder := .ofTree (Tree.ofRoot .document) } ++
        [.numbered id]

def settleEvents (f : Forest) (r : ManagerRef) (key : Option String) (model : Model) : List Event :=
  let (ref, f) := f.plant model
  match f.manager? r with
  | none => []
  | some m => [.registered key ref (m.register key ref).1]

/-- A request is answered. `tell` gives the events of finding a feed and the tale of the
feed that `find` gives. -/
def answerEvents (f : Forest) (r : ManagerRef) (source : Source) (unique : Bool)
    (find : Forest → Manager → Except TreeError Producer × Forest)
    (tell : Forest → Manager → List Event × Tale) : List Event :=
  match f.manager? r with
  | none => []
  | some m =>
    let key := if unique then none else source.systemId
    match f.reuse? r m key with
    | some (ref, _) => reuseEvents m key ref
    | none =>
      let (searched, tale) := tell f m
      match find f m with
      | (.error _, _) => searched
      | (.ok producer, f) =>
        let m := (f.manager? r).getD m
        let made := f.makeEvents r m source producer.feed tale ++ searched
        match f.make r m source producer with
        | (.error _, _) => made
        | (.ok model, growth) => growth.forest.settleEvents r key model ++ made

end Forest

namespace Feed

/-- What is told of finding a feed: whether the resolver was asked, and the tale of the feed
that was found. -/
def telling (r : ManagerRef) (own : Option Tale) (supplied : Feed → Tale)
    (systemId : Option String) (f : Forest) (m : Manager) : List Event × Tale :=
  match own with
  | some tale => ([], tale)
  | none =>
    (Forest.resolveEvents m systemId,
      match (f.resolve r m systemId).1 with
      | .error _ => fun _ => []
      | .ok feed => supplied feed)

/-- The tale of a feed, given the tales of the feeds that a resolver supplies. -/
def taleWith (r : ManagerRef) (supplied : Feed → Growth → Run) (tales : Feed → Tale) :
    Feed → Tale
  | .finish _, _ => []
  | .report event next, g =>
    match g.builder.refusal? event with
    | none => taleWith r supplied tales (next (.ok ())) { g with builder := g.builder.take event }
    | some e =>
      taleWith r supplied tales (next (.error e)) { g with builder := g.builder.refuse event }
  | .request (.make systemId feed sizeHint) unique next, g =>
    let (answer, after) := reply (some r) supplied (.make systemId feed sizeHint) unique g
    let own := match feed with
      | some feed => some (taleWith r supplied tales feed)
      | none => none
    taleWith r supplied tales (next answer) after ++
      g.forest.answerEvents r (.make systemId feed sizeHint) unique
        (finding r (Feed.own (runWith (some r) supplied) (.make systemId feed sizeHint)) supplied systemId)
        (telling r own tales systemId)
  termination_by structural feed => feed

/-- The tale of a feed that runs under a manager. -/
def tale (r : ManagerRef) : Nat → Feed → Tale
  | 0 => taleWith r (fun _ g => (.error (.configuration "source resolver nests too deeply"), g))
      fun _ _ => []
  | depth + 1 => taleWith r (run r depth) (tale r depth)

end Feed

namespace Forest

def createEvents (f : Forest) (r : ManagerRef) (source : Source) (unique : Bool) : List Event :=
  f.answerEvents r source unique
    (Feed.finding r (Feed.own (Feed.run r resolverDepth) source) (Feed.run r resolverDepth)
      source.systemId)
    (Feed.telling r (source.feed.map (Feed.tale r resolverDepth)) (Feed.tale r resolverDepth)
      source.systemId)

def createFragmentEvents (f : Forest) (r : ManagerRef) : List Event :=
  match f.manager? r with
  | none => []
  | some m =>
    match m.allocate with
    | .error _ => []
    | .ok (id, m) =>
      match m.factory.fragmentRefusal id with
      | some _ => [.numbered id]
      | none => (f.setManager r m).settleEvents r none (Model.emptyFragment id) ++ [.numbered id]

/-! ## What the events lead to -/

variable {m₀ m m' : Manager} {r : ManagerRef} {f f' : Forest} {log more : List Event} {e : Event}

/-- A forest with a manager to which the given events happened. -/
def Logged (m₀ : Manager) (r : ManagerRef) (log : List Event) (f : Forest) : Prop :=
  ∃ m, f.manager? r = some m ∧ m₀.History log m

/-- From one forest to the next, some events of requests happen to a manager. -/
structure Adds (m₀ : Manager) (r : ManagerRef) (log more : List Event) (f : Forest) : Prop where
  requests : Requests more
  logged : f.Logged m₀ r (more ++ log)

/-- The tale of a run is what happens to a manager meanwhile. -/
def Tells (m₀ : Manager) (r : ManagerRef) (run : Growth → Run) (tale : Tale) : Prop :=
  ∀ g log, g.forest.Logged m₀ r log → Adds m₀ r log (tale g) (run g).2.forest

/-- The last event of a request for a model, shared or not, is its answer. -/
def Answers (key : Option String) (given : ModelRef) (events : List Event) : Prop :=
  ∃ e rest, events = e :: rest ∧ e.requested? = some key ∧ e.given? = some given

theorem Answers.append {key : Option String} {given : ModelRef} (h : Answers key given more)
    (log : List Event) : Answers key given (more ++ log) := by
  obtain ⟨e, rest, rfl, hkey, hgiven⟩ := h
  exact ⟨e, rest ++ log, rfl, hkey, hgiven⟩

theorem Answers.exists_mem {key : Option String} {given : ModelRef} (h : Answers key given more) :
    ∃ e ∈ more, e.given? = some given := by
  obtain ⟨e, rest, rfl, -, hgiven⟩ := h
  exact ⟨e, List.mem_cons_self, hgiven⟩

theorem manager?_setManager (h : f.manager? r = some m) :
    (f.setManager r m').manager? r = some m' := by
  obtain ⟨hlt, -⟩ := Array.getElem?_eq_some_iff.1 h
  simp [manager?, setManager, hlt]

theorem Logged.step (h : f.Logged m₀ r log) (hm : f.manager? r = some m) (hstep : Step m e m')
    (hdue : Manager.Due log e) : (f.setManager r m').Logged m₀ r (e :: log) := by
  obtain ⟨held, hheld, hhistory⟩ := h
  obtain rfl := Option.some_inj.1 (hm.symm.trans hheld)
  exact ⟨m', manager?_setManager hm, hhistory.step hdue hstep⟩

theorem Logged.adds_nil (h : f.Logged m₀ r log) : Adds m₀ r log [] f := ⟨.nil, h⟩

theorem Adds.trans {later : List Event} (h' : Adds m₀ r (more ++ log) later f')
    (h : Adds m₀ r log more f) : Adds m₀ r log (later ++ more) f' :=
  ⟨h'.requests.append h.requests, List.append_assoc .. ▸ h'.logged⟩

theorem Logged.resolve (hlog : f.Logged m₀ r log) (hm : f.manager? r = some m)
    (systemId : Option String) :
    Adds m₀ r log (resolveEvents m systemId) (f.resolve r m systemId).2 := by
  unfold Forest.resolve resolveEvents
  cases systemId with
  | none => exact hlog.adds_nil
  | some key =>
    have hasked := hlog.step hm .asked trivial
    dsimp only
    cases hresolver : m.resolver with
    | none => exact hlog.adds_nil
    | some resolver =>
      rw [hresolver] at hasked
      refine ⟨.asked, ?_⟩
      dsimp only
      split <;> exact hasked

/-- A reused model is given out. -/
theorem Logged.reuse? (hlog : f.Logged m₀ r log) (hm : f.manager? r = some m) {key : Option String}
    {ref : ModelRef} (h : f.reuse? r m key = some (ref, f')) :
    Adds m₀ r log (reuseEvents m key ref) f' ∧ Answers key ref (reuseEvents m key ref) := by
  obtain ⟨k, rfl, hreuse⟩ := Option.bind_eq_some_iff.1 h
  clear h
  unfold reuseEvents
  split at hreuse
  next shared hshared =>
    obtain ⟨rfl, rfl⟩ : shared = ref ∧ f = f' := by simpa using hreuse
    obtain ⟨held, hheld, hhistory⟩ := hlog
    obtain rfl := Option.some_inj.1 (hm.symm.trans hheld)
    simp only [hshared, Option.isSome_some, if_true]
    exact ⟨⟨.shared, m, hm, hhistory.step trivial (.shared hshared)⟩, _, _, rfl, rfl, rfl⟩
  next hshared =>
    obtain ⟨⟨revived, m'⟩, hrevive, hreuse⟩ := Option.bind_eq_some_iff.1 hreuse
    obtain ⟨rfl, rfl⟩ : revived = ref ∧ f.setManager r m' = f' := by simpa using hreuse
    simp only [hshared, Option.isSome_none, Bool.false_eq_true, if_false]
    exact ⟨⟨.revived, hlog.step hm (.revived hshared hrevive) trivial⟩, _, _, rfl, rfl, rfl⟩

/-- A model is registered under a number that was given out and not used. -/
theorem Logged.settle (hlog : f.Logged m₀ r log) {model : Model} {key : Option String}
    (hnumbered : .numbered model.id ∈ log)
    (hnew : ∀ key' ref given, .registered key' ref given ∈ log → ref.id ≠ model.id)
    (hkey : ∀ k, key = some k → model.systemId = some k) :
    ∃ ref, ref.id = model.id ∧
      f.settleEvents r key model = [.registered key ref (f.settle r key model).1] ∧
      (f.settle r key model).2.Logged m₀ r (f.settleEvents r key model ++ log) := by
  obtain ⟨m, hm, hhistory⟩ := hlog
  have hplanted : (f.plant model).2.manager? r = some m := hm
  have hdue : Manager.Due log (.registered key (f.plant model).1 (m.register key (f.plant model).1).1) :=
    ⟨hnumbered, hnew, hkey⟩
  have hregistered := Logged.step ⟨m, hplanted, hhistory⟩ hplanted (.registered key _) hdue
  refine ⟨(f.plant model).1, rfl, ?_, ?_⟩
  · simp only [Forest.settle, settleEvents, hplanted]
  · simpa only [Forest.settle, settleEvents, hplanted, List.singleton_append] using hregistered

/-- A model is registered under the number that waits for it. -/
theorem Logged.settle_waiting {model : Model} {key : Option String}
    (hlog : f.Logged m₀ r (more ++ .numbered model.id :: log)) (hmore : Requests more)
    (hkey : ∀ k, key = some k → model.systemId = some k) :
    Adds m₀ r log (f.settleEvents r key model ++ (more ++ [.numbered model.id]))
        (f.settle r key model).2 ∧
      Answers key (f.settle r key model).1 (f.settleEvents r key model) := by
  obtain ⟨m, -, hhistory⟩ := id hlog
  obtain ⟨ref, hid, hevents, hsettled⟩ := hlog.settle (by simp) (hhistory.unregistered hmore) hkey
  refine ⟨⟨?_, by simpa using hsettled⟩, _, _, hevents, rfl, rfl⟩
  rw [hevents, ← hid]
  exact hmore.registered key ref _

/-- A number is taken and waits to be used. -/
theorem Logged.make {producer : Producer} {tale : Tale} (hlog : f.Logged m₀ r log)
    (hm : f.manager? r = some m) (htells : Tells m₀ r producer.run tale) (source : Source) :
    Adds m₀ r log (f.makeEvents r m source producer.feed tale) (f.make r m source producer).2.forest ∧
    ∀ model, (f.make r m source producer).1 = .ok model → model.systemId = source.systemId ∧
      ∃ more, Requests more ∧ f.makeEvents r m source producer.feed tale = more ++ [.numbered model.id] ∧
        (f.make r m source producer).2.forest.Logged m₀ r (more ++ .numbered model.id :: log) := by
  unfold Forest.make makeEvents
  cases hid : m.allocate with
  | error e => exact ⟨hlog.adds_nil, by simp⟩
  | ok numbered =>
    obtain ⟨id, m'⟩ := numbered
    have hnumbered := hlog.step hm (.numbered hid) trivial
    dsimp only
    cases m'.factory.refusal id source producer.feed with
    | some e => exact ⟨⟨.numbered, hnumbered⟩, by simp⟩
    | none =>
      dsimp only
      rw [build_forest]
      obtain ⟨hrequests, hgrown⟩ := htells { forest := f.setManager r m', builder := _ } _ hnumbered
      refine ⟨⟨hrequests.append .numbered, by simpa using hgrown⟩, ?_⟩
      intro model hmodel
      obtain ⟨t, -, rfl⟩ := build_eq_ok (Factory.built_of_verdict hmodel)
      exact ⟨rfl, _, hrequests, rfl, hgrown⟩

/-- What is told of finding a feed happens meanwhile, and the tale is that of the feed. -/
def TellsFinding (m₀ : Manager) (r : ManagerRef)
    (find : Forest → Manager → Except TreeError Producer × Forest)
    (tell : Forest → Manager → List Event × Tale) : Prop :=
  ∀ f m log, f.manager? r = some m → f.Logged m₀ r log →
    Adds m₀ r log (tell f m).1 (find f m).2 ∧
    ∀ producer, (find f m).1 = .ok producer → Tells m₀ r producer.run (tell f m).2

/-- A request is answered with the model that its last event gives out. -/
theorem Logged.answer {find : Forest → Manager → Except TreeError Producer × Forest}
    {tell : Forest → Manager → List Event × Tale} (hlog : f.Logged m₀ r log)
    (hfind : TellsFinding m₀ r find tell) (source : Source) (unique : Bool) :
    Adds m₀ r log (f.answerEvents r source unique find tell)
        (f.answer r source unique find).2 ∧
      ∀ ref, (f.answer r source unique find).1.outcome = .ok ref →
        Answers (if unique then none else source.systemId) ref
          (f.answerEvents r source unique find tell) := by
  obtain ⟨m, hm, -⟩ := id hlog
  obtain ⟨hfound, htells⟩ := hfind f m log hm hlog
  simp only [Forest.answer, answerEvents, hm]
  cases hreuse : f.reuse? r m (if unique = true then none else source.systemId) with
  | some reused =>
    obtain ⟨hadds, hanswers⟩ := hlog.reuse? hm hreuse
    exact ⟨hadds, fun given heq => Except.ok.inj heq ▸ hanswers⟩
  | none =>
    dsimp only
    generalize tell f m = told at hfound htells ⊢
    obtain ⟨searched, tale⟩ := told
    generalize find f m = found at hfound htells ⊢
    obtain ⟨producer, f'⟩ := found
    cases producer with
    | error e => exact ⟨hfound, by simp⟩
    | ok producer =>
      obtain ⟨m', hm', -⟩ := id hfound.logged
      simp only [hm', Option.getD_some]
      obtain ⟨hmade, hmodel⟩ := hfound.logged.make hm' (htells producer rfl) source
      generalize f'.make r m' source producer = made at hmade hmodel ⊢
      obtain ⟨model, growth⟩ := made
      cases model with
      | error e => exact ⟨hmade.trans hfound, by simp⟩
      | ok model =>
        obtain ⟨hsystemId, more, hmore, hevents, hwaiting⟩ := hmodel model rfl
        have hkey : ∀ k, (if unique = true then none else source.systemId) = some k →
            model.systemId = some k := by
          intro k hk
          split at hk
          · simp at hk
          · rw [hsystemId, hk]
        obtain ⟨hsettled, hanswers⟩ := hwaiting.settle_waiting hmore hkey
        rw [← hevents] at hsettled
        refine ⟨?_, fun given heq => ?_⟩
        · dsimp only
          rw [← List.append_assoc]
          exact hsettled.trans hfound
        · rw [← Except.ok.inj heq]
          exact hanswers.append _

end Forest

namespace Feed

open Forest (Tells TellsFinding Adds)

variable {m₀ : Manager} {r : ManagerRef} {supplied : Feed → Growth → Run} {tales : Feed → Tale}

theorem taleWith_request (source : Source) (unique : Bool) (next : Except TreeError Model → Feed)
    (g : Growth) : taleWith r supplied tales (.request source unique next) g =
      taleWith r supplied tales (next (reply (some r) supplied source unique g).1)
          (reply (some r) supplied source unique g).2 ++
        g.forest.answerEvents r source unique
          (finding r (own (runWith (some r) supplied) source) supplied source.systemId)
          (telling r (source.feed.map (taleWith r supplied tales)) tales source.systemId) := by
  obtain ⟨systemId, feed, sizeHint⟩ := source
  cases feed <;> rfl

theorem telling_finding (source : Source) {run : Feed → Growth → Run} {tale : Feed → Tale}
    (hown : ∀ feed, source.feed = some feed → Tells m₀ r (run feed) (tale feed))
    (hsupplied : ∀ feed, Tells m₀ r (supplied feed) (tales feed)) (systemId : Option String) :
    TellsFinding m₀ r (finding r (own run source) supplied systemId)
      (telling r (source.feed.map tale) tales systemId) := by
  intro f m log hm hlog
  unfold own
  cases hfeed : source.feed with
  | some feed =>
    exact ⟨hlog.adds_nil, fun found heq => Except.ok.inj heq ▸ hown feed hfeed⟩
  | none =>
    have hresolve := hlog.resolve hm systemId
    simp only [finding, telling, Option.map_none]
    generalize f.resolve r m systemId = resolved at hresolve ⊢
    obtain ⟨found, f'⟩ := resolved
    cases found with
    | error e => exact ⟨hresolve, by simp⟩
    | ok feed => exact ⟨hresolve, fun run heq => Except.ok.inj heq ▸ hsupplied feed⟩

theorem tells_taleWith (hsupplied : ∀ feed, Tells m₀ r (supplied feed) (tales feed)) :
    ∀ feed : Feed, Tells m₀ r (feed.runWith (some r) supplied) (feed.taleWith r supplied tales)
  | .finish _, g, log, hlog => hlog.adds_nil
  | .report event next, g, log, hlog => by
    rw [runWith, taleWith]
    cases g.builder.refusal? event with
    | none =>
      exact tells_taleWith hsupplied (next (.ok ())) { g with builder := g.builder.take event } log hlog
    | some e =>
      exact tells_taleWith hsupplied (next (.error e)) { g with builder := g.builder.refuse event }
        log hlog
  | .request (.make systemId feed sizeHint) unique next, g, log, hlog => by
    rw [runWith_request, taleWith_request]
    have hown : ∀ own, feed = some own →
        Tells m₀ r (own.runWith (some r) supplied) (own.taleWith r supplied tales) := by
      intro own heq
      cases feed with
      | none => simp at heq
      | some feed => exact Option.some_inj.1 heq ▸ tells_taleWith hsupplied feed
    have hfind := telling_finding (.make systemId feed sizeHint) hown hsupplied systemId
    have hanswered : Adds m₀ r log _
        (reply (some r) supplied (.make systemId feed sizeHint) unique g).2.forest :=
      (hlog.answer hfind _ unique).1
    exact (tells_taleWith hsupplied (next _) _ _ hanswered.logged).trans hanswered
  termination_by structural feed => feed

theorem tells_tale : ∀ (depth : Nat) (feed : Feed), Tells m₀ r (feed.run r depth) (feed.tale r depth)
  | 0 => tells_taleWith fun _ _ _ hlog => hlog.adds_nil
  | depth + 1 => tells_taleWith (tells_tale depth)

end Feed

namespace Forest

variable {m₀ : Manager} {r : ManagerRef} {f f' : Forest} {log : List Event}

theorem Logged.create (hlog : f.Logged m₀ r log) (source : Source) (unique : Bool) :
    Adds m₀ r log (f.createEvents r source unique) (f.create r source unique).2 ∧
      ∀ ref, (f.create r source unique).1.outcome = .ok ref →
        Answers (if unique then none else source.systemId) ref (f.createEvents r source unique) := by
  rw [create_eq]
  exact hlog.answer (Feed.telling_finding source (fun own _ => Feed.tells_tale resolverDepth own)
    (Feed.tells_tale resolverDepth) source.systemId) source unique

theorem Logged.createFragment (hlog : f.Logged m₀ r log) :
    Adds m₀ r log (f.createFragmentEvents r) (f.createFragment r).2 ∧
      ∀ ref, (f.createFragment r).1 = .ok ref → Answers none ref (f.createFragmentEvents r) := by
  obtain ⟨m, hm, hhistory⟩ := id hlog
  simp only [Forest.createFragment, createFragmentEvents, hm]
  cases hid : m.allocate with
  | error e => exact ⟨hlog.adds_nil, by simp⟩
  | ok numbered =>
    obtain ⟨id, m'⟩ := numbered
    have hnumbered := hlog.step hm (.numbered hid) trivial
    dsimp only
    cases m'.factory.fragmentRefusal id with
    | some e => exact ⟨⟨.numbered, hnumbered⟩, by simp⟩
    | none =>
      have hwaiting : Logged m₀ r ([] ++ .numbered (Model.emptyFragment id).id :: log) _ := hnumbered
      obtain ⟨hsettled, hanswers⟩ :=
        hwaiting.settle_waiting .nil fun k hk => (Option.some_ne_none k hk.symm).elim
      refine ⟨hsettled, fun given heq => ?_⟩
      rw [← Except.ok.inj heq]
      exact hanswers.append _

theorem Logged.release {ref : ModelRef} (hlog : f.Logged m₀ r log)
    (hgiven : ∃ e ∈ log, e.given? = some ref) (force : Bool) :
    (f.release r ref force).2.Logged m₀ r (.released ref force (f.release r ref force).1 :: log) := by
  obtain ⟨m, hm, -⟩ := id hlog
  have hreleased := hlog.step hm (.released ref force) hgiven
  simpa only [Forest.release, hm] using hreleased

/-- The model that a request is answered with is live. -/
theorem Logged.create_live {factory : Factory} {resolver : Option Resolver} {capacity : Nat}
    (hlog : f.Logged (Manager.ofFactory factory resolver capacity) r log) {source : Source}
    {unique : Bool} {ref : ModelRef} (h : (f.create r source unique).1.outcome = .ok ref) :
    ∃ m, (f.create r source unique).2.manager? r = some m ∧ m.live.get? ref.id = some ref := by
  obtain ⟨⟨hrequests, m, hm, hhistory⟩, hanswers⟩ := hlog.create source unique
  obtain ⟨e, he, heq⟩ := (hanswers ref h).exists_mem
  exact ⟨m, hm, hhistory.live_of_given hrequests.kept e he heq⟩

end Forest

end Grove

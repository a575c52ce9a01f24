/-
Requests of feeds that do not look at numbers. Where two forests differ in the numbers of the models
of a manager, whose implementation does not look at them either, such a request comes to the same in
both but for numbers (`Forest.Renumbers.serve`), and so does all that is done with the manager
(`Forest.Renumbers.operations`).

The argument for feeds is by recursion on the feed, whose requests run the feeds their sources
carry, and by induction on the depth to which feeds from the resolver may nest. That numbers are
left is asked of the forest in the end alone: no number is ever given back.
-/
import Grove.Proofs.Forest.Renumber

namespace Grove

/-! ## Forests -/

namespace Forest

/-- Numbers of models are left to a manager. -/
def HasRoom (r : ManagerRef) (f : Forest) : Prop := ∀ m, f.manager? r = some m → m.HasRoom

/-- Two forests differ in the numbers of the models of a manager. -/
def Renumbers (r : ManagerRef) (ρ : ModelId → ModelId) (f f' : Forest) : Prop :=
  ∃ m m', f.manager? r = some m ∧ m.Renumbers ρ m' ∧ f' = f.setManager r m'

end Forest

/-- Two states of feeds differ in the numbers of models. -/
structure Growth.Renumbers (r : ManagerRef) (ρ : ModelId → ModelId) (g g' : Growth) : Prop where
  forest : g.forest.Renumbers r ρ g'.forest
  builder : g'.builder = g.builder
  answers : g'.answers = g.answers.map (Except.map (Model.renumber ρ))

/-- Two runs come to the same but for numbers, as long as numbers are left. -/
def RunsAlike (r : ManagerRef) (ρ : ModelId → ModelId) (run run' : Growth → Run) : Prop :=
  ∀ g g', g.Renumbers r ρ g' → (run' g').2.forest.HasRoom r →
    (run' g').1 = (run g).1 ∧ (run g).2.Renumbers r ρ (run' g').2

/-- Two feeds go on alike after answers with other numbers, and they run alike. -/
structure Producer.Alike (r : ManagerRef) (ρ : ModelId → ModelId) (p p' : Producer) : Prop where
  feed : p.feed.Renumbered ρ p'.feed
  runs : RunsAlike r ρ p.run p'.run

namespace Forest

variable {r : ManagerRef} {ρ : ModelId → ModelId} {f f' : Forest} {m m' m₁ m₁' : Manager}

theorem setManager_setManager (f : Forest) (r : ManagerRef) (m m' : Manager) :
    (f.setManager r m).setManager r m' = f.setManager r m' := by
  simp [setManager]

theorem hasRoom_iff (hm : f.manager? r = some m) : f.HasRoom r ↔ m.HasRoom := by
  simp [HasRoom, hm]

theorem resolve_eq_ok_iff {systemId : Option String} {feed : Feed} :
    (f.resolve r m systemId).1 = .ok feed ↔ ∃ key resolver,
      systemId = some key ∧ m.resolver = some resolver ∧ resolver key = .ok (some feed) := by
  constructor
  · intro h
    unfold resolve at h
    cases systemId with
    | none => simp at h
    | some key =>
      dsimp only at h
      cases hresolver : m.resolver with
      | none => simp [hresolver] at h
      | some resolver =>
        rw [hresolver] at h
        dsimp only at h
        refine ⟨key, resolver, rfl, rfl, ?_⟩
        rcases hfound : resolver key with e | _ | found <;> simp [hfound] at h
        rw [h]
  · rintro ⟨key, resolver, rfl, hresolver, hfound⟩
    simp [resolve, hresolver, hfound]

theorem hasRoom_settle (key : Option String) (model : Model) :
    (f.settle r key model).2.HasRoom r ↔ f.HasRoom r := by
  have hplanted : (f.plant model).2.manager? r = f.manager? r := rfl
  unfold settle
  dsimp only
  rw [hplanted]
  cases hm : f.manager? r with
  | none => simp [HasRoom, hm, hplanted]
  | some m =>
    have hnextId : (m.register key (f.plant model).1).2.nextId = m.nextId := by
      rcases m.register_cases key (f.plant model).1 with ⟨-, heq⟩ | ⟨k, -, -, heq⟩ | ⟨k, existing, -, -, heq⟩ <;>
        exact congrArg (·.2.nextId) heq
    rw [hasRoom_iff hm, hasRoom_iff (manager?_setManager (hplanted.trans hm)), Manager.HasRoom, hnextId,
      Manager.HasRoom]

namespace Renumbers

theorem refl (hm : f.manager? r = some m) (himpartial : m.factory.Blind)
    (hblind : ∀ resolver, m.resolver = some resolver → Resolver.Blind resolver) : f.Renumbers r id f :=
  ⟨m, m, hm, .refl himpartial hblind, (setManager_same hm).symm⟩

theorem manager? (h : f.Renumbers r ρ f') :
    ∃ m m', f.manager? r = some m ∧ f'.manager? r = some m' ∧ m.Renumbers ρ m' := by
  obtain ⟨m, m', hm, hm', rfl⟩ := h
  exact ⟨m, m', hm, manager?_setManager hm, hm'⟩

theorem setManager (h : f.Renumbers r ρ f') (hm : m₁.Renumbers ρ m₁') :
    (f.setManager r m₁).Renumbers r ρ (f'.setManager r m₁') := by
  obtain ⟨m, m', hold, -, rfl⟩ := h
  refine ⟨m₁, m₁', manager?_setManager hold, hm, ?_⟩
  rw [setManager_setManager, setManager_setManager]

theorem model (h : f.Renumbers r ρ f') (ref : ModelRef) :
    f'.model (ref.renumber ρ) = (f.model ref).renumber ρ := by
  obtain ⟨m, m', -, -, rfl⟩ := h
  rfl

theorem plant (h : f.Renumbers r ρ f') (model : Model) :
    (f'.plant (model.renumber ρ)).1 = (f.plant model).1.renumber ρ ∧
      (f.plant model).2.Renumbers r ρ (f'.plant (model.renumber ρ)).2 := by
  obtain ⟨m, m', hm, hm', rfl⟩ := h
  exact ⟨rfl, m, m', hm, hm', rfl⟩

theorem settle (h : f.Renumbers r ρ f') (hρ : Function.Injective ρ) (key : Option String) (model : Model) :
    (f'.settle r key (model.renumber ρ)).1 = (f.settle r key model).1.renumber ρ ∧
      (f.settle r key model).2.Renumbers r ρ (f'.settle r key (model.renumber ρ)).2 := by
  obtain ⟨href, hplanted⟩ := h.plant model
  obtain ⟨m, m', hm, hm', hrenumbers⟩ := hplanted.manager?
  obtain ⟨hgiven, hregistered⟩ := hrenumbers.register hρ key (f.plant model).1
  simp only [Forest.settle, hm, hm', href]
  exact ⟨hgiven, hplanted.setManager hregistered⟩

theorem reuse? (h : f.Renumbers r ρ f') (hm : m.Renumbers ρ m') (hρ : Function.Injective ρ)
    (key : Option String) : (f.reuse? r m key = none ∧ f'.reuse? r m' key = none) ∨
      ∃ ref f₁ f₁', f.reuse? r m key = some (ref, f₁) ∧
        f'.reuse? r m' key = some (ref.renumber ρ, f₁') ∧ f₁.Renumbers r ρ f₁' := by
  cases key with
  | none => exact .inl ⟨rfl, rfl⟩
  | some key =>
    simp only [Forest.reuse?, Option.bind_eq_bind, Option.bind_some, hm.shared? hρ key]
    cases hshared : m.shared? key with
    | some ref => exact .inr ⟨ref, f, f', rfl, rfl, h⟩
    | none =>
      rcases hm.revive? hρ key with ⟨hrevive, hrevive'⟩ | ⟨ref, m₁, m₁', hrevive, hrevive', hrevived⟩
      · exact .inl ⟨by simp [hrevive], by simp [hrevive']⟩
      · exact .inr ⟨ref, _, _, by simp [hrevive], by simp [hrevive'], h.setManager hrevived⟩

/-- The resolver is asked and supplies the same. -/
theorem resolve (h : f.Renumbers r ρ f') (hm : m.Renumbers ρ m') (systemId : Option String) :
    (f'.resolve r m' systemId).1 = (f.resolve r m systemId).1 ∧
      (f.resolve r m systemId).2.Renumbers r ρ (f'.resolve r m' systemId).2 := by
  unfold Forest.resolve
  cases systemId with
  | none => exact ⟨rfl, h⟩
  | some key =>
    have hasked := h.setManager hm.asked
    rw [hm.resolver] at hasked ⊢
    dsimp only
    cases hresolver : m.resolver with
    | none => exact ⟨rfl, h⟩
    | some resolver =>
      rw [hresolver] at hasked
      dsimp only
      rcases resolver key with e | _ | feed <;> exact ⟨rfl, hasked⟩

theorem build (h : f.Renumbers r ρ f') {run run' : Growth → Run} (hruns : RunsAlike r ρ run run')
    (id : ModelId) (systemId : Option String) (hroom : (f'.build (ρ id) systemId run').2.forest.HasRoom r) :
    (f'.build (ρ id) systemId run').1 = (f.build id systemId run).1.map (Model.renumber ρ) ∧
      (f.build id systemId run).2.Renumbers r ρ (f'.build (ρ id) systemId run').2 := by
  rw [build_forest] at hroom
  obtain ⟨hresult, hgrown⟩ := hruns ⟨f, .ofTree (Tree.ofRoot .document), []⟩
    ⟨f', .ofTree (Tree.ofRoot .document), []⟩ ⟨h, rfl, rfl⟩ hroom
  unfold Forest.build
  generalize run ⟨f, .ofTree (Tree.ofRoot .document), []⟩ = ran at hresult hgrown ⊢
  generalize run' ⟨f', .ofTree (Tree.ofRoot .document), []⟩ = ran' at hresult hgrown ⊢
  obtain ⟨result, g⟩ := ran
  obtain ⟨result', g'⟩ := ran'
  obtain rfl : result' = result := hresult
  cases result' with
  | error e => exact ⟨rfl, hgrown⟩
  | ok _ =>
    refine ⟨?_, hgrown⟩
    dsimp only
    rw [hgrown.builder]
    cases g.builder.finish <;> rfl

/-- The models that are made have numbers that belong to each other. -/
theorem make (h : f.Renumbers r ρ f') (hρ : Function.Injective ρ) (hm' : f'.manager? r = some m')
    (hrenumbers : m.Renumbers ρ m') {source source' : Source} (hsource : source.Renumbered ρ source')
    {producer producer' : Producer} (hproducer : producer.Alike r ρ producer')
    (hroom : (f'.make r m' source' producer').2.forest.HasRoom r) :
    (f'.make r m' source' producer').1 = (f.make r m source producer).1.map (Model.renumber ρ) ∧
      (f.make r m source producer).2.Renumbers r ρ (f'.make r m' source' producer').2 := by
  have hroom' : m'.HasRoom := by
    intro hmax
    have hfull : m'.allocate = .error (.configuration "tree model id space exhausted") := if_pos hmax
    simp only [Forest.make, hfull] at hroom
    exact hroom m' hm' hmax
  obtain ⟨id, m₁, m₁', hid, hid', hnext⟩ := hrenumbers.allocate hroom'
  have hnumbered := h.setManager hnext
  have hrefusals := hnext.impartial.refusal hρ hsource hproducer.feed id
  unfold Forest.make at hroom ⊢
  simp only [hid, hid', hnext.factory, hrefusals, hsource.systemId_eq] at hroom ⊢
  cases hrefusal : m₁.factory.refusal id source producer.feed with
  | some e => exact ⟨rfl, hnumbered, rfl, rfl⟩
  | none =>
    simp only [hrefusal] at hroom
    obtain ⟨hbuilt, hgrown⟩ := hnumbered.build hproducer.runs id source.systemId hroom
    refine ⟨?_, hgrown⟩
    dsimp only
    rw [hbuilt, hnext.impartial.verdict hρ hsource hproducer.feed]

/-- Looking for a feed fails alike, or finds feeds that come to the same. -/
def FindsAlike (r : ManagerRef) (ρ : ModelId → ModelId)
    (find find' : Forest → Manager → Except TreeError Producer × Forest) : Prop :=
  ∀ f f' m m', f.Renumbers r ρ f' → f.manager? r = some m → m.Renumbers ρ m' →
    (find f m).2.Renumbers r ρ (find' f' m').2 ∧
      ((∃ e, (find f m).1 = .error e ∧ (find' f' m').1 = .error e) ∨
        ∃ p p', (find f m).1 = .ok p ∧ (find' f' m').1 = .ok p' ∧ p.Alike r ρ p')

/-- A request is answered alike, but for numbers. -/
theorem answer (h : f.Renumbers r ρ f') (hρ : Function.Injective ρ)
    {find find' : Forest → Manager → Except TreeError Producer × Forest}
    (hfind : FindsAlike r ρ find find') {source source' : Source} (hsource : source.Renumbered ρ source')
    (unique : Bool) (hroom : (f'.answer r source' unique find').2.HasRoom r) :
    (f'.answer r source' unique find').1 = (f.answer r source unique find).1.renumber ρ ∧
      (f.answer r source unique find).2.Renumbers r ρ (f'.answer r source' unique find').2 := by
  obtain ⟨m, m', hm, hm', hrenumbers⟩ := h.manager?
  unfold Forest.answer at hroom ⊢
  simp only [hm, hm', hsource.systemId_eq] at hroom ⊢
  rcases h.reuse? hrenumbers hρ (if unique = true then none else source.systemId) with
    ⟨hreuse, hreuse'⟩ | ⟨ref, f₁, f₁', hreuse, hreuse', hreused⟩
  · simp only [hreuse, hreuse'] at hroom ⊢
    obtain ⟨hfound, hrun⟩ := hfind f f' m m' h hm hrenumbers
    generalize find f m = found at hfound hrun hroom ⊢
    generalize find' f' m' = found' at hfound hrun hroom ⊢
    obtain ⟨producer, f₁⟩ := found
    obtain ⟨producer', f₁'⟩ := found'
    rcases hrun with ⟨e, rfl, rfl⟩ | ⟨producer, producer', rfl, rfl, halike⟩
    · exact ⟨rfl, hfound⟩
    · obtain ⟨m₁, m₁', hm₁, hm₁', hrenumbers₁⟩ := hfound.manager?
      simp only [hm₁, hm₁', Option.getD_some] at hroom ⊢
      have hmake := hfound.make hρ hm₁' hrenumbers₁ hsource halike
      generalize f₁.make r m₁ source producer = made at hmake hroom ⊢
      generalize f₁'.make r m₁' source' producer' = made' at hmake hroom ⊢
      obtain ⟨result, g⟩ := made
      obtain ⟨result', g'⟩ := made'
      have hroom' : g'.forest.HasRoom r := by
        cases result' with
        | error e => exact hroom
        | ok model => exact (hasRoom_settle _ _).1 hroom
      obtain ⟨hresult, hgrown⟩ := hmake hroom'
      obtain rfl : result' = result.map (Model.renumber ρ) := hresult
      have hanswers : g'.answers = g.answers.map (Except.map (Model.renumber ρ)) := hgrown.answers
      cases result with
      | error e => exact ⟨by simp [Creation.renumber, Except.map, hanswers], hgrown.forest⟩
      | ok model =>
        obtain ⟨hgiven, hsettled⟩ := hgrown.forest.settle hρ (if unique = true then none else source.systemId) model
        exact ⟨by simp [Creation.renumber, Except.map, hanswers, hgiven], hsettled⟩
  · simp only [hreuse, hreuse']
    exact ⟨rfl, hreused⟩

theorem finding (hρ : Function.Injective ρ) {own own' : Option Producer}
    {supplied : Feed → Growth → Run} (hown : Option.Rel (Producer.Alike r ρ) own own')
    (hsupplied : ∀ feed : Feed, feed.Blind → RunsAlike r ρ (supplied feed) (supplied feed))
    (systemId : Option String) :
    FindsAlike r ρ (Feed.finding r own supplied systemId) (Feed.finding r own' supplied systemId) := by
  intro f f' m m' h hm hrenumbers
  cases hown with
  | some halike => exact ⟨h, .inr ⟨_, _, rfl, rfl, halike⟩⟩
  | none =>
    obtain ⟨hsame, hresolved⟩ := h.resolve hrenumbers systemId
    have hblind : ∀ feed, (f.resolve r m systemId).1 = .ok feed → feed.Blind := by
      intro feed hfeed
      obtain ⟨key, resolver, -, hresolver, hfound⟩ := resolve_eq_ok_iff.1 hfeed
      exact hrenumbers.blind resolver hresolver key feed hfound
    unfold Feed.finding
    generalize f.resolve r m systemId = resolved at hsame hresolved hblind ⊢
    generalize f'.resolve r m' systemId = resolved' at hsame hresolved ⊢
    obtain ⟨result, f₁⟩ := resolved
    obtain ⟨result', f₁'⟩ := resolved'
    obtain rfl : result' = result := hsame
    cases result' with
    | error e => exact ⟨hresolved, .inl ⟨e, rfl, rfl⟩⟩
    | ok feed =>
      have hfeed := hblind feed rfl
      exact ⟨hresolved, .inr ⟨_, _, rfl, rfl, hfeed ρ hρ, hsupplied feed hfeed⟩⟩

/-- A request of a feed is answered alike, and the feed goes on alike. -/
theorem serve_of_runsAlike (h : f.Renumbers r ρ f') (hρ : Function.Injective ρ) (q q' : Request)
    (hdepth : q'.depth = q.depth) (hunique : q'.unique = q.unique)
    (hsource : q.source.Renumbered ρ q'.source)
    (hown : Option.Rel (Producer.Alike r ρ) (Feed.own (Feed.run r q.depth) q.source)
      (Feed.own (Feed.run r q.depth) q'.source))
    (hsupplied : ∀ feed : Feed, feed.Blind →
      RunsAlike r ρ (Feed.supply r q.depth feed) (Feed.supply r q.depth feed))
    (hroom : (f'.serve r q').2.HasRoom r) :
    (f'.serve r q').1 = (f.serve r q).1.renumber ρ ∧ (f.serve r q).2.Renumbers r ρ (f'.serve r q').2 := by
  unfold Forest.serve at hroom ⊢
  rw [hdepth, hunique, hsource.systemId_eq] at hroom ⊢
  exact h.answer hρ (finding hρ hown hsupplied _) hsource _ hroom

end Renumbers

end Forest

/-! ## Runs of feeds -/

theorem Manager.History.nextId_le {m₀ m : Manager} {log : List Manager.Event} (h : m₀.History log m) :
    m₀.nextId ≤ m.nextId := by
  induction h with
  | start => exact UInt32.le_refl _
  | step _ _ hstep ih =>
    rcases hstep.nextId with ⟨-, -, -, hnext⟩ | ⟨-, hsame⟩
    · exact UInt32.le_trans ih (UInt32.le_of_lt hnext)
    · rwa [hsame]

/-- Numbers that are left in the end were left before. -/
theorem Manager.History.hasRoom {m₀ m : Manager} {log : List Manager.Event} (h : m₀.History log m)
    (hroom : m.HasRoom) : m₀.HasRoom := by
  intro hmax
  have hle := h.nextId_le
  rw [hmax, UInt32.le_iff_toNat_le] at hle
  have hlt := m.nextId.toNat_lt
  have hfull : (UInt32.ofNat (Nat.pow 2 32 - 1)).toNat = 2 ^ 32 - 1 := rfl
  refine hroom (UInt32.toNat_inj.1 ?_)
  omega

theorem Forest.hasRoom_of_logged {r : ManagerRef} {f f' : Forest}
    (h : ∀ m, f.manager? r = some m → ∃ log, f'.Logged m r log) (hroom : f'.HasRoom r) : f.HasRoom r := by
  intro m hm
  obtain ⟨log, m', hm', hhistory⟩ := h m hm
  exact hhistory.hasRoom (hroom m' hm')

namespace Feed

variable {r : ManagerRef} {ρ : ModelId → ModelId} {depth : Nat}

theorem hasRoom_of_run {feed : Feed} {g : Growth} (h : (feed.run r depth g).2.forest.HasRoom r) :
    g.forest.HasRoom r :=
  Forest.hasRoom_of_logged (fun _ hm => ⟨_, (tells_tale depth feed g [] ⟨_, hm, .start⟩).logged⟩) h

/-- What a request is answered with, and the state a feed goes on in. -/
theorem renumbers_answerRequest {g g' : Growth} {creation creation' : Creation × Forest}
    (hg : g.Renumbers r ρ g') (hcreation : creation'.1 = creation.1.renumber ρ)
    (hforest : creation.2.Renumbers r ρ creation'.2) :
    (answerRequest g' creation').1 = (answerRequest g creation).1.map (Model.renumber ρ) ∧
      (answerRequest g creation).2.Renumbers r ρ (answerRequest g' creation').2 := by
  have hanswer : creation'.1.outcome.map creation'.2.model =
      (creation.1.outcome.map creation.2.model).map (Model.renumber ρ) := by
    rw [hcreation]
    cases hout : creation.1.outcome with
    | error e => simp [Creation.renumber, hout, Except.map]
    | ok ref => simp [Creation.renumber, hout, Except.map, hforest.model]
  refine ⟨hanswer, hforest, hg.builder, ?_⟩
  simp only [answerRequest, hg.answers, hanswer, List.map_append, List.map_singleton]

/-- Feeds that go on alike after answers with other numbers come to the same but for numbers. -/
theorem runsAlike_run (hρ : Function.Injective ρ)
    (hsupplied : ∀ feed : Feed, feed.Blind → RunsAlike r ρ (supply r depth feed) (supply r depth feed)) :
    ∀ feed feed' : Feed, feed.Renumbered ρ feed' → RunsAlike r ρ (run r depth feed) (run r depth feed')
  | .finish result, feed', hfeed, g, g', hg, hroom => by
    obtain rfl : feed' = .finish result := hfeed
    have hran : ∀ g, run r depth (.finish result) g = (result, g) := fun g => by rw [run_eq, runWith]
    rw [hran, hran]
    exact ⟨rfl, hg⟩
  | .report event next, feed', hfeed, g, g', hg, hroom => by
    obtain ⟨next', rfl, hnext⟩ := hfeed
    cases hevent : g.builder.refusal? event with
    | none =>
      have hevent' : g'.builder.refusal? event = none := hg.builder ▸ hevent
      rw [run_report_of_taken hevent'] at hroom ⊢
      rw [run_report_of_taken hevent]
      exact runsAlike_run hρ hsupplied _ _ (hnext (.ok ())) _ _
        ⟨hg.forest, congrArg (·.take event) hg.builder, hg.answers⟩ hroom
    | some e =>
      have hevent' : g'.builder.refusal? event = some e := hg.builder ▸ hevent
      rw [run_report_of_refused hevent'] at hroom ⊢
      rw [run_report_of_refused hevent]
      exact runsAlike_run hρ hsupplied _ _ (hnext (.error e)) _ _
        ⟨hg.forest, congrArg (·.refuse event) hg.builder, hg.answers⟩ hroom
  | .request (.make systemId own sizeHint) unique next, feed', hfeed, g, g', hg, hroom => by
    obtain ⟨source', next', rfl, hsource, hnext⟩ := hfeed
    have hown : Option.Rel (Producer.Alike r ρ) (Feed.own (run r depth) (.make systemId own sizeHint))
        (Feed.own (run r depth) source') := by
      cases own with
      | none =>
        obtain rfl : source' = .make systemId none sizeHint := hsource
        exact .none
      | some feed =>
        obtain ⟨other, rfl, hrenumbered⟩ := hsource
        exact .some ⟨hrenumbered, runsAlike_run hρ hsupplied feed other hrenumbered⟩
    rw [run_request] at hroom
    have hserved := hg.forest.serve_of_runsAlike hρ ⟨depth, .make systemId own sizeHint, unique⟩
      ⟨depth, source', unique⟩ rfl rfl hsource hown hsupplied (hasRoom_of_run hroom)
    obtain ⟨hanswer, hafter⟩ := renumbers_answerRequest hg hserved.1 hserved.2
    rw [run_request, run_request]
    rw [hanswer] at hroom ⊢
    exact runsAlike_run hρ hsupplied _ _ (hnext _) _ _ hafter hroom
  termination_by structural feed => feed

theorem runsAlike_supply (hρ : Function.Injective ρ) : ∀ (depth : Nat) (feed : Feed), feed.Blind →
    RunsAlike r ρ (supply r depth feed) (supply r depth feed)
  | 0, _, _, _, _, hg, _ => ⟨rfl, hg⟩
  | depth + 1, feed, hblind, g, g', hg, hroom =>
    runsAlike_run hρ (runsAlike_supply hρ depth) feed feed (hblind ρ hρ) g g' hg hroom

end Feed

/-- Where two forests differ in numbers, a request whose feed does not look at them is answered
with models that differ in numbers, and so do the forests that come of it. -/
theorem Forest.Renumbers.serve {r : ManagerRef} {ρ : ModelId → ModelId} {f f' : Forest}
    (h : f.Renumbers r ρ f') (hρ : Function.Injective ρ) {q : Request} (hblind : q.source.Blind)
    (hroom : (f'.serve r q).2.HasRoom r) :
    (f'.serve r q).1 = (f.serve r q).1.renumber ρ ∧ (f.serve r q).2.Renumbers r ρ (f'.serve r q).2 := by
  have hsupplied := fun feed => Feed.runsAlike_supply (r := r) hρ q.depth feed
  refine h.serve_of_runsAlike hρ q q rfl rfl (hblind ρ hρ) ?_ hsupplied hroom
  obtain ⟨depth, ⟨systemId, own, sizeHint⟩, unique⟩ := q
  cases own with
  | none => exact .none
  | some feed =>
    obtain ⟨feed', heq, hrenumbered⟩ := hblind ρ hρ
    obtain rfl : feed = feed' := by simpa using heq
    exact .some ⟨hrenumbered, Feed.runsAlike_run hρ hsupplied feed feed hrenumbered⟩

/-! ## Operations -/

/-- A batch does the same to the tree of a model of any number. -/
theorem Model.tree_append_renumber (m : Model) (ρ : ModelId → ModelId) (feed : Feed) :
    ((m.renumber ρ).append feed).2.tree = (m.append feed).2.tree := by
  obtain ⟨id, systemId, isFragment, tree⟩ := m
  cases isFragment with
  | false => rfl
  | true =>
    simp only [append, renumber, if_true]
    cases ((feed.runAlone { forest := default, builder := .ofTree tree }).1.bind fun _ =>
      (feed.runAlone { forest := default, builder := .ofTree tree }).2.builder.finish) <;> rfl

namespace Forest

/-- Something that is done with a manager, or with a model of it. -/
inductive Operation where
  | create (source : Source) (unique : Bool)
  | createFragment
  | release (ref : ModelRef) (force : Bool)
  | append (ref : ModelRef) (feed : Feed)

namespace Operation

def renumber (ρ : ModelId → ModelId) : Operation → Operation
  | .create source unique => .create source unique
  | .createFragment => .createFragment
  | .release ref force => .release (ref.renumber ρ) force
  | .append ref feed => .append (ref.renumber ρ) feed

/-- No feed of the operation looks at numbers. A batch is added without a manager. -/
def Blind : Operation → Prop
  | .create source _ => source.Blind
  | .createFragment | .release _ _ | .append _ _ => True

end Operation

def perform (r : ManagerRef) (f : Forest) : Operation → Forest
  | .create source unique => (f.create r source unique).2
  | .createFragment => (f.createFragment r).2
  | .release ref force => (f.release r ref force).2
  | .append ref feed => (f.append ref feed).2

variable {r : ManagerRef} {ρ : ModelId → ModelId} {f f' : Forest}

theorem hasRoom_of_perform {op : Operation} (h : (f.perform r op).HasRoom r) : f.HasRoom r := by
  cases op with
  | create source unique =>
    exact hasRoom_of_logged (fun m hm => ⟨_, (Logged.create ⟨m, hm, .start⟩ source unique).1.logged⟩) h
  | createFragment =>
    exact hasRoom_of_logged (fun m hm => ⟨_, (Logged.createFragment ⟨m, hm, .start⟩).1.logged⟩) h
  | append ref feed => exact h
  | release ref force =>
    intro m hm
    have hkept := h _ (manager?_release hm force)
    rcases (Manager.Step.released (m := m) ref force).nextId with ⟨id, heq, -, -⟩ | ⟨-, hsame⟩
    · simp at heq
    · rwa [Manager.HasRoom, hsame] at hkept

theorem hasRoom_of_operations {ops : List Operation} (h : (ops.foldl (perform r) f).HasRoom r) :
    f.HasRoom r := by
  induction ops generalizing f with
  | nil => exact h
  | cons op ops ih => exact hasRoom_of_perform (ih h)

namespace Renumbers

theorem create (h : f.Renumbers r ρ f') (hρ : Function.Injective ρ) {source : Source} (unique : Bool)
    (hblind : source.Blind) (hroom : (f'.create r source unique).2.HasRoom r) :
    (f'.create r source unique).1 = (f.create r source unique).1.renumber ρ ∧
      (f.create r source unique).2.Renumbers r ρ (f'.create r source unique).2 := by
  rw [create_eq_serve] at hroom
  rw [create_eq_serve, create_eq_serve]
  exact h.serve hρ hblind hroom

theorem createFragment (h : f.Renumbers r ρ f') (hρ : Function.Injective ρ) (hroom : f'.HasRoom r) :
    (f'.createFragment r).1 = (f.createFragment r).1.map (ModelRef.renumber ρ) ∧
      (f.createFragment r).2.Renumbers r ρ (f'.createFragment r).2 := by
  obtain ⟨m, m', hm, hm', hrenumbers⟩ := h.manager?
  obtain ⟨id, m₁, m₁', hid, hid', hnext⟩ := hrenumbers.allocate (hroom m' hm')
  have hnumbered := h.setManager hnext
  have hrefusals := hnext.impartial.fragmentRefusal hρ id
  simp only [Forest.createFragment, hm, hm', hid, hid', hnext.factory, hrefusals]
  cases m₁.factory.fragmentRefusal id with
  | some e => exact ⟨rfl, hnumbered⟩
  | none =>
    obtain ⟨hgiven, hsettled⟩ := hnumbered.settle hρ none (Model.emptyFragment id)
    exact ⟨congrArg Except.ok hgiven, hsettled⟩

theorem release (h : f.Renumbers r ρ f') (hρ : Function.Injective ρ) (ref : ModelRef) (force : Bool) :
    (f'.release r (ref.renumber ρ) force).1 = (f.release r ref force).1 ∧
      (f.release r ref force).2.Renumbers r ρ (f'.release r (ref.renumber ρ) force).2 := by
  obtain ⟨m, m', hm, hm', hrenumbers⟩ := h.manager?
  obtain ⟨hanswer, hreleased⟩ := hrenumbers.release hρ ref force
  simp only [Forest.release, hm, hm']
  exact ⟨hanswer, h.setManager hreleased⟩

theorem append (h : f.Renumbers r ρ f') (ref : ModelRef) (feed : Feed) :
    (f.append ref feed).2.Renumbers r ρ (f'.append (ref.renumber ρ) feed).2 := by
  have htree : ((f'.model (ref.renumber ρ)).append feed).2.tree = ((f.model ref).append feed).2.tree := by
    rw [h.model]
    exact (f.model ref).tree_append_renumber ρ feed
  obtain ⟨m, m', hm, hm', rfl⟩ := h
  refine ⟨m, m', hm, hm', ?_⟩
  simp only [Forest.append, htree]
  rfl

/-- Whatever is done in one forest and, to the models of those numbers, in the other one, they go
on to differ in numbers alone. -/
theorem operations (h : f.Renumbers r ρ f') (hρ : Function.Injective ρ) {ops : List Operation}
    (hblind : ∀ op ∈ ops, op.Blind)
    (hroom : ((ops.map (Operation.renumber ρ)).foldl (perform r) f').HasRoom r) :
    (ops.foldl (perform r) f).Renumbers r ρ ((ops.map (Operation.renumber ρ)).foldl (perform r) f') := by
  induction ops generalizing f f' with
  | nil => exact h
  | cons op ops ih =>
    obtain ⟨hop, hops⟩ := List.forall_mem_cons.1 hblind
    refine ih ?_ hops hroom
    have hafter : (f'.perform r (op.renumber ρ)).HasRoom r := hasRoom_of_operations hroom
    cases op with
    | create source unique => exact (h.create hρ unique hop hafter).2
    | createFragment => exact (h.createFragment hρ (hasRoom_of_perform hafter)).2
    | release ref force => exact (h.release hρ ref force).2
    | append ref feed => exact h.append ref feed

end Renumbers

end Forest

end Grove

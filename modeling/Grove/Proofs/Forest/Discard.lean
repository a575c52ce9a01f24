/-
The models that a manager gives up. A model is given up when it is released and reported as
discarded, when it has to make room among the released ones, or when another one has become
the shared one while it was made (`Discards`). A model is held while it is live or on the list
of released ones (`Kept`), and one that is not held can only be registered, which happens once;
so a model that was given up is held no more, whatever happens later
(`History.not_kept_append`), and its number is that of no other. `Forest.Annals.lifetimes` says
what that means for the owners of nodes.

A release that is told to discard the model gives up a live one. A model that has been released
before is left where it is, so it stays among the released ones
(`Forest.Reachable.forced_release_discards_iff`).
-/
import Grove.Proofs.Forest.Foreign
import Grove.Proofs.Forest.Pool

namespace Grove

namespace Manager

/-- A model is live after some events, or on the list of released ones. -/
def Kept (capacity : Nat) (log : List Event) (ref : ModelRef) : Prop :=
  (enlivening? ref log).isSome ∨ ∃ key, (key, ref) ∈ shelf capacity log

/-- After some events, another one gives a model up. -/
inductive Discards (capacity : Nat) (log : List Event) : Event → ModelRef → Prop
  /-- A live model is released and reported as discarded. -/
  | released {ref : ModelRef} {force : Bool} : (enlivening? ref log).isSome →
      Discards capacity log (.released ref force true) ref
  /-- A released model makes room for another one, of its own system identifier or not. -/
  | displaced (key : String) {ref other : ModelRef} {force discarded : Bool} :
      (key, ref) ∈ shelf capacity log →
      (key, ref) ∉ shelf capacity (.released other force discarded :: log) →
      Discards capacity log (.released other force discarded) ref
  /-- Another model has become the shared one while the model was made. -/
  | outrun {key : Option String} {ref given : ModelRef} : given ≠ ref →
      Discards capacity log (.registered key ref given) ref

variable {m₀ m : Manager} {log before : List Event} {e : Event} {ref : ModelRef} {capacity : Nat}

/-! ## Models that come to be held -/

theorem mem_of_mem_shelve {shelf : List (String × ModelRef)} {force : Bool}
    {entry : String × ModelRef} (h : entry ∈ shelve capacity ref force shelf) :
    entry.2 = ref ∨ entry ∈ shelf := by
  unfold shelve at h
  split at h
  next key _ =>
    rcases List.mem_cons.1 (List.mem_of_mem_take h) with rfl | hmem
    · exact .inl rfl
    · exact .inr (List.mem_filter.1 hmem).1
  next => exact .inr h

/-- An event puts a model on the list of released ones only if it was live. -/
theorem mem_shelf_of_cons {key : String} (h : (key, ref) ∈ shelf capacity (e :: log)) :
    (key, ref) ∈ shelf capacity log ∨
      (enlivening? ref log).isSome ∧ ∃ force discarded, e = .released ref force discarded := by
  cases e with
  | released other force discarded =>
    rw [shelf] at h
    split at h
    next hlive =>
      rcases mem_of_mem_shelve h with rfl | hmem
      · exact .inr ⟨hlive, force, discarded, rfl⟩
      · exact .inl hmem
    next => exact .inl h
  | revived k r => exact .inl (List.mem_filter.1 h).1
  | asked => exact .inl h
  | numbered id => exact .inl h
  | shared k r => exact .inl h
  | registered k r given => exact .inl h

/-- A release makes nothing live. -/
theorem enlivening?_of_released {other : ModelRef} {force discarded : Bool}
    (h : (enlivening? ref (.released other force discarded :: log)).isSome) :
    other ≠ ref ∧ (enlivening? ref log).isSome := by
  rw [enlivening?, if_neg (by simp [Event.enlivened?])] at h
  split at h
  next => simp at h
  next hother => exact ⟨fun heq => hother (congrArg some heq), h⟩

namespace History

variable {factory : Factory} {resolver : Option Resolver}

/-- A model that was not held and is now was just registered. -/
theorem kept_of_cons (h : (ofFactory factory resolver capacity).History (e :: log) m)
    (hkept : Kept capacity (e :: log) ref) :
    Kept capacity log ref ∨ ∃ key, e = .registered key ref ref := by
  rcases hkept with hlive | ⟨key, href⟩
  · unfold enlivening? at hlive
    split at hlive
    next henlivened =>
      cases e with
      | revived key r =>
        obtain rfl := Option.some_inj.1 henlivened
        exact .inl (.inr ⟨key, h.revived_mem.2⟩)
      | registered key r given =>
        obtain ⟨rfl, heq⟩ := Option.ite_none_right_eq_some.1 henlivened
        obtain rfl := Option.some_inj.1 heq
        exact .inr ⟨key, rfl⟩
      | _ => simp [Event.enlivened?] at henlivened
    next =>
      split at hlive
      next => simp at hlive
      next => exact .inl (.inl hlive)
  · rcases mem_shelf_of_cons href with hmem | ⟨hlive, -⟩
    · exact .inl (.inr ⟨key, hmem⟩)
    · exact .inl (.inl hlive)

/-- The live and the released models of a manager are those that are held. -/
theorem kept_iff (h : (ofFactory factory resolver capacity).History log m) : Kept capacity log ref ↔
    m.live.get? ref.id = some ref ∨ ∃ key, (key, ref) ∈ m.released := by
  rw [Kept, h.live_iff, h.released_eq_shelf]

theorem made_of_kept (h : (ofFactory factory resolver capacity).History log m)
    (hkept : Kept capacity log ref) : Made log ref := by
  rcases h.kept_iff.1 hkept with hlive | ⟨key, href⟩
  · exact h.sound.2.live _ ref hlive
  · exact h.sound.2.released key ref href

/-- The live or released model of a number is the one that is held. -/
theorem holder?_eq_some_iff (h : (ofFactory factory resolver capacity).History log m)
    {id : ModelId} : m.holder? id = some ref ↔ Kept capacity log ref ∧ ref.id = id := by
  rw [h.sound.1.holder?_eq_some_iff, h.kept_iff]

/-! ## Models that are given up -/

theorem not_live_of_mem_shelf (h : (ofFactory factory resolver capacity).History log m)
    {key : String} (href : (key, ref) ∈ shelf capacity log) : ¬(enlivening? ref log).isSome := by
  rw [← h.live_iff, h.sound.1.not_live_of_mem_released (h.released_eq_shelf ▸ href)]
  simp

theorem systemId_of_mem_shelf (h : (ofFactory factory resolver capacity).History log m)
    {key : String} (href : (key, ref) ∈ shelf capacity log) : ref.systemId = some key :=
  (h.sound.1.document key ref (h.released_eq_shelf ▸ href)).1

theorem eq_of_mem_shelf (h : (ofFactory factory resolver capacity).History log m)
    {key : String} {other : ModelRef} (href : (key, ref) ∈ shelf capacity log)
    (hother : (key, other) ∈ shelf capacity log) : ref = other := by
  obtain ⟨hcons, -⟩ := h.sound
  obtain ⟨pool, hpool, hget⟩ := hcons.get?_pool_of_released (h.released_eq_shelf ▸ href)
  obtain ⟨pool', hpool', hget'⟩ := hcons.get?_pool_of_released (h.released_eq_shelf ▸ hother)
  obtain rfl := Option.some_inj.1 (hpool.symm.trans hpool')
  exact Option.some_inj.1 (hget.symm.trans hget')

theorem exists_registered_of_discards
    (h : (ofFactory factory resolver capacity).History (e :: log) m)
    (hgone : Discards capacity log e ref) : ∃ key given, .registered key ref given ∈ e :: log := by
  obtain ⟨m', h'⟩ := h.exists_of_suffix (List.suffix_cons e _)
  have hmade : Kept capacity log ref → ∃ key given, .registered key ref given ∈ e :: log := by
    intro hkept
    obtain ⟨key, hmem⟩ := h'.made_of_kept hkept
    exact ⟨key, ref, List.mem_cons_of_mem _ hmem⟩
  cases hgone with
  | released hlive => exact hmade (.inl hlive)
  | displaced key href _ => exact hmade (.inr ⟨key, href⟩)
  | outrun _ => exact ⟨_, _, List.mem_cons_self⟩

theorem unregistered_before {key : Option String} {given : ModelRef}
    (h : History m₀ (.registered key ref given :: log) m) :
    ∀ key' ref' given', .registered key' ref' given' ∈ log → ref'.id ≠ ref.id := by
  cases h with
  | step _ hdue _ => exact hdue.2.1

/-- A model that an event gives up is held no more. -/
theorem not_kept_of_discards (h : (ofFactory factory resolver capacity).History (e :: log) m)
    (hgone : Discards capacity log e ref) : ¬Kept capacity (e :: log) ref := by
  intro hkept
  obtain ⟨m', h'⟩ := h.exists_of_suffix (List.suffix_cons e _)
  cases hgone with
  | released hlive =>
    rcases hkept with hlive' | href
    · exact (enlivening?_of_released hlive').1 rfl
    · exact absurd ((h.discarded_eq_false_iff hlive).2 href) (by simp)
  | displaced key href hnot =>
    rcases hkept with hlive | ⟨key', href'⟩
    · exact h'.not_live_of_mem_shelf href (enlivening?_of_released hlive).2
    · have hkey := (h.systemId_of_mem_shelf href').symm.trans (h'.systemId_of_mem_shelf href)
      exact hnot (Option.some_inj.1 hkey ▸ href')
  | outrun hne =>
    rcases h.kept_of_cons hkept with hkept | ⟨key, heq⟩
    · obtain ⟨key, hmem⟩ := h'.made_of_kept hkept
      exact h.unregistered_before _ _ _ hmem rfl
    · exact hne (Event.registered.inj heq).2.2

/-- A registered model that is not held will not be held again. -/
theorem not_kept_append {key : Option String} {given : ModelRef}
    (hmem : .registered key ref given ∈ log) (hgone : ¬Kept capacity log ref) :
    ∀ {more : List Event} {m : Manager},
      (ofFactory factory resolver capacity).History (more ++ log) m → ¬Kept capacity (more ++ log) ref
  | [], _, _ => hgone
  | e :: more, m, h => by
    intro hkept
    obtain ⟨m', h'⟩ := h.exists_of_suffix (List.suffix_cons e _)
    rcases h.kept_of_cons hkept with hkept | ⟨key', rfl⟩
    · exact not_kept_append hmem hgone h' hkept
    · exact h.unregistered_before _ _ _ (List.mem_append_right more hmem) rfl

/-! ## Models that are held or given up -/

/-- A model that is held stays so or is given up. -/
theorem kept_or_discards (h : (ofFactory factory resolver capacity).History (e :: log) m)
    (hkept : Kept capacity log ref) :
    Kept capacity (e :: log) ref ∨ Discards capacity log e ref := by
  obtain ⟨m', h'⟩ := h.exists_of_suffix (List.suffix_cons e _)
  rcases hkept with hlive | ⟨key, href⟩
  · by_cases hreleased : e.released? = some ref
    · cases e with
      | released r force discarded =>
        obtain rfl := Option.some_inj.1 hreleased
        cases discarded with
        | true => exact .inr (.released hlive)
        | false => exact .inl (.inr ((h.discarded_eq_false_iff hlive).1 rfl))
      | _ => simp [Event.released?] at hreleased
    · refine .inl (.inl ?_)
      rw [enlivening?, if_neg hreleased]
      split
      next => rfl
      next => exact hlive
  · cases e with
    | released other force discarded =>
      by_cases hstill : (key, ref) ∈ shelf capacity (.released other force discarded :: log)
      · exact .inl (.inr ⟨key, hstill⟩)
      · exact .inr (.displaced key href hstill)
    | revived k r =>
      refine .inl ?_
      by_cases hkey : key = k
      · subst hkey
        have hsame : r = ref := h'.eq_of_mem_shelf h.revived_mem.2 href
        exact .inl (by simp [enlivening?, Event.enlivened?, hsame])
      · exact .inr ⟨key, List.mem_filter.2 ⟨href, by simpa using hkey⟩⟩
    | asked => exact .inl (.inr ⟨key, href⟩)
    | numbered id => exact .inl (.inr ⟨key, href⟩)
    | shared k r => exact .inl (.inr ⟨key, href⟩)
    | registered k r given => exact .inl (.inr ⟨key, href⟩)

theorem kept_or_discarded (h : (ofFactory factory resolver capacity).History log m)
    {key : Option String} {given : ModelRef} (hmem : .registered key ref given ∈ log) :
    Kept capacity log ref ∨ ∃ e before, e :: before <:+ log ∧ Discards capacity before e ref := by
  induction h with
  | start => simp at hmem
  | @step log m m' e h hdue hstep ih =>
    rcases List.mem_cons.1 hmem with rfl | hmem
    · by_cases hgiven : given = ref
      · exact .inl (.inl (by simp [enlivening?, Event.enlivened?, hgiven]))
      · exact .inr ⟨_, log, List.suffix_rfl, .outrun hgiven⟩
    · rcases ih hmem with hkept | ⟨e', before, hbefore, hgone⟩
      · rcases (h.step hdue hstep).kept_or_discards hkept with hkept | hgone
        · exact .inl hkept
        · exact .inr ⟨e, log, List.suffix_rfl, hgone⟩
      · exact .inr ⟨e', before, hbefore.trans (List.suffix_cons e log), hgone⟩

/-- What was given up is not held, however much has happened since. -/
theorem not_kept_of_discarded (h : (ofFactory factory resolver capacity).History log m)
    (hbefore : e :: before <:+ log) (hgone : Discards capacity before e ref) :
    (∃ key given, .registered key ref given ∈ log) ∧ ¬Kept capacity log ref := by
  obtain ⟨more, rfl⟩ := hbefore
  obtain ⟨m', h'⟩ := h.before
  obtain ⟨key, given, hmem⟩ := h'.exists_registered_of_discards hgone
  exact ⟨⟨key, given, List.mem_append_right more hmem⟩,
    not_kept_append hmem (h'.not_kept_of_discards hgone) h⟩

end History

end Manager

namespace Forest

open Manager (Event Kept Discards)

variable {r : ManagerRef} {f : Forest}

/-- What becomes of the models of a manager, and of their nodes. -/
structure Lifetimes (r : ManagerRef) (capacity : Nat) (log : List Event) (f : Forest) : Prop where
  /-- A number is given out once. -/
  numbered : ∀ id before, .numbered id :: before <:+ log → .numbered id ∉ before
  /-- A model has a number that was given out and that no earlier model has. -/
  registered : ∀ key ref given before, .registered key ref given :: before <:+ log →
    .numbered ref.id ∈ before ∧
      ∀ key' ref' given', .registered key' ref' given' ∈ before → ref'.id ≠ ref.id
  /-- It is live or on the list of released models until it is given up, and only then. -/
  kept : ∀ key ref given, .registered key ref given ∈ log →
    (Kept capacity log ref ↔ ∀ e before, e :: before <:+ log → ¬Discards capacity before e ref)
  /-- The live and the released models of the manager are those. -/
  held : ∀ m, f.manager? r = some m → ∀ ref, Kept capacity log ref ↔
    m.live.get? ref.id = some ref ∨ ∃ key, (key, ref) ∈ m.released
  /-- Until then it owns the nodes that it has now. -/
  owner : ∀ ref, Kept capacity log ref → ∀ node, node.model = ref.id →
    f.ownerRef r node =
      if node.index.toNat < (f.model ref).size then .ok ref else .error (.invalidHandle node)
  /-- From then on nobody owns nodes of its number. -/
  gone : ∀ e before ref, e :: before <:+ log → Discards capacity before e ref →
    ∀ node, node.model = ref.id → f.ownerRef r node = .error (.invalidHandle node)

namespace Annals

variable {config : ManagerConfig} {log : List Event}

/-- A tree that is extended is nothing that happens to a manager. -/
theorem append (h : Annals r config log f) (ref : ModelRef) (feed : Feed) :
    Annals r config log (f.append ref feed).2 :=
  h.aside rfl

/-- A model that was given up never comes back, nor does another one of its number. -/
theorem lifetimes (h : Annals r config log f) : Lifetimes r config.poolCapacity log f := by
  obtain ⟨factory, m, hm, hhistory⟩ := h.logged
  refine ⟨fun id before hbefore hagain => ?_, fun key ref given before hbefore => ?_,
    fun key ref given hmem => ⟨fun hkept e before hbefore hgone => ?_, fun hnever => ?_⟩,
    fun m' hm' ref => ?_, fun ref hkept node hnode => ?_,
    fun e before ref hbefore hgone node hnode => ?_⟩
  · obtain ⟨m', h'⟩ := hhistory.exists_of_suffix hbefore
    have honce : Manager.History _ ([.numbered id] ++ before) m' := h'
    exact honce.numbered_once hagain List.mem_cons_self
  · obtain ⟨m', h'⟩ := hhistory.exists_of_suffix hbefore
    cases h' with
    | step _ hdue _ => exact ⟨hdue.1, hdue.2.1⟩
  · exact (hhistory.not_kept_of_discarded hbefore hgone).2 hkept
  · rcases hhistory.kept_or_discarded hmem with hkept | ⟨e, before, hbefore, hgone⟩
    · exact hkept
    · exact absurd hgone (hnever e before hbefore)
  · obtain rfl := Option.some_inj.1 (hm.symm.trans hm')
    exact hhistory.kept_iff
  · exact ownerRef_of_holder hm (hhistory.holder?_eq_some_iff.2 ⟨hkept, rfl⟩) hnode
  · obtain ⟨⟨key, given, hmem⟩, hnot⟩ := hhistory.not_kept_of_discarded hbefore hgone
    have hnobody : m.holder? node.model = none := by
      refine Option.eq_none_iff_forall_ne_some.2 fun other hholder => ?_
      obtain ⟨hkept, hid⟩ := hhistory.holder?_eq_some_iff.1 hholder
      obtain ⟨key', hmem'⟩ := hhistory.made_of_kept hkept
      obtain rfl := hhistory.registered_once hmem' hmem (hid.trans hnode)
      exact hnot hkept
    simp [ownerRef, hm, hnobody]

/-- With room for one, the twins are released: the shared one makes room for the other one,
and the model that was outrun had been given up before. A fragment has grown meanwhile. -/
theorem lifetimes_twins : ∃ log f, Annals ⟨0⟩ { poolCapacity := 1 } log f ∧
    Lifetimes ⟨0⟩ 1 log f ∧
    (∀ node : NodeHandle, node.model = ⟨0⟩ → f.ownerRef ⟨0⟩ node = .error (.invalidHandle node)) ∧
    (∀ node : NodeHandle, node.model = ⟨1⟩ → f.ownerRef ⟨0⟩ node = .error (.invalidHandle node)) ∧
    f.ownerRef ⟨0⟩ (.make ⟨2⟩ 0) = .ok ⟨2, ⟨2⟩, some "k", false⟩ ∧
    f.ownerRef ⟨0⟩ (.make ⟨3⟩ 1) = .ok ⟨3, ⟨3⟩, none, true⟩ := by
  have hstart : Annals ⟨0⟩ { poolCapacity := 1 } [] { managers := #[.ofFactory .default none 1] } :=
    .start rfl rfl
  have htwins := (hstart.create Reachable.selfishSource false).create (blank "k") true
  have hfragment := htwins.createFragment.append ⟨3, ⟨3⟩, none, true⟩ (.ofEvents [.comment "new"])
  have hfirst := hfragment.release false
    (show ∃ e ∈ _, Event.given? e = some ⟨0, ⟨1⟩, some "k", false⟩ by decide)
  have hsecond := hfirst.release false
    (show ∃ e ∈ _, Event.given? e = some ⟨2, ⟨2⟩, some "k", false⟩ by decide)
  have hlives := hsecond.lifetimes
  have houtrun := hlives.gone
    (.registered (some "k") ⟨1, ⟨0⟩, some "k", false⟩ ⟨0, ⟨1⟩, some "k", false⟩) _ _
    ⟨[_, _, _, _, _, _], rfl⟩ (.outrun (by decide))
  have hdisplaced := hlives.gone _ _ ⟨0, ⟨1⟩, some "k", false⟩ List.suffix_rfl
    (.displaced "k" (by decide) (by decide))
  have hkept := hlives.owner ⟨2, ⟨2⟩, some "k", false⟩ (.inr ⟨"k", by decide⟩) (.make ⟨2⟩ 0) rfl
  have hlive := hlives.owner ⟨3, ⟨3⟩, none, true⟩ (.inl rfl) (.make ⟨3⟩ 1) rfl
  exact ⟨_, _, hsecond, hlives, houtrun, hdisplaced, hkept.trans (if_pos (by decide)),
    hlive.trans (if_pos (by decide))⟩

end Annals

end Forest

/-! ## Releases that are to discard the model -/

namespace Manager

variable {m : Manager} {ref : ModelRef}

theorem forced_release_of_live (hlive : m.live.get? ref.id ≠ none) :
    m.release ref true = (true, m.retire ref) := by
  have hcontains : m.live.contains ref.id = true := Option.isSome_iff_ne_none.2 hlive
  rw [release, if_pos hcontains]
  cases ref.systemId <;> cases hpool : m.pool <;> simp [retire, hpool]

theorem holder?_retire_self (hreleased : m.pooledIds.get? ref.id = none) :
    (m.retire ref).holder? ref.id = none := by
  simp [holder?, retire, pooled?, hreleased]

theorem holder?_retire_other {id : ModelId} (hid : id ≠ ref.id) :
    (m.retire ref).holder? id = m.holder? id := by
  simp only [holder?, retire, Table.get?_erase_other _ hid]
  rfl

end Manager

namespace Forest

variable {r : ManagerRef} {f : Forest} {m : Manager} {ref : ModelRef}

/-- A release was answered as a discard, and the model is neither live nor released and owns no
node. -/
structure Gone (r : ManagerRef) (ref : ModelRef) (answer : Bool × Forest) : Prop where
  discarded : answer.1 = true
  live : ∀ m, answer.2.manager? r = some m → m.live.get? ref.id = none
  pooled : ∀ m, answer.2.manager? r = some m → m.isPooled ref.id = false
  owner : ∀ node, node.model = ref.id → answer.2.ownerOf r node = .error (.invalidHandle node)

theorem gone_of_holder (hm : f.manager? r = some m) (hnone : m.holder? ref.id = none) :
    Gone r ref (true, f) := by
  obtain ⟨hlive, hpooled⟩ : m.live.get? ref.id = none ∧ m.pooled? ref.id = none := by
    unfold Manager.holder? at hnone
    split at hnone
    next => simp at hnone
    next hlive => exact ⟨hlive, hnone⟩
  refine ⟨rfl, fun m' hm' => ?_, fun m' hm' => ?_, fun node hnode => ?_⟩
  · obtain rfl := Option.some_inj.1 (hm.symm.trans hm')
    exact hlive
  · obtain rfl := Option.some_inj.1 (hm.symm.trans hm')
    simp [Manager.isPooled, hpooled]
  · simp [ownerOf, ownerRef, hm, hnode, hnone, Except.map]

namespace Reachable

variable {config : ManagerConfig} {issued : List ModelRef}

/-- A live model that is released and to be discarded is gone, and the other models stay what they
are. A model that had been released before is not gone: nothing happens, and it is reported as
kept. -/
theorem forced_release_discards_iff (h : Reachable r config issued f) (hm : f.manager? r = some m)
    (hheld : m.holder? ref.id = some ref) :
    (Gone r ref (f.release r ref true) ↔ m.live.get? ref.id = some ref) ∧
    (∀ node, node.model ≠ ref.id → (f.release r ref true).2.ownerRef r node = f.ownerRef r node) ∧
    (m.isPooled ref.id = true → f.release r ref true = (false, f)) := by
  obtain ⟨m', hm', hcons⟩ := h.manager_consistent
  obtain rfl := Option.some_inj.1 (hm.symm.trans hm')
  rcases (hcons.holder?_eq_some_iff.1 hheld).1 with hlive | ⟨key, href⟩
  · have hused : m.live.get? ref.id ≠ none := by simp [hlive]
    have hunpooled : m.pooledIds.get? ref.id = none := hcons.apart _ hused
    have hrelease : f.release r ref true = (true, f.setManager r (m.retire ref)) := by
      simp only [Forest.release, hm, Manager.forced_release_of_live hused]
    have hretired : (f.setManager r (m.retire ref)).manager? r = some (m.retire ref) :=
      manager?_setManager hm
    rw [hrelease]
    refine ⟨iff_of_true ?_ hlive, fun node hnode => ?_, fun hpooled => ?_⟩
    · exact gone_of_holder hretired (Manager.holder?_retire_self hunpooled)
    · simp only [ownerRef, hretired, hm, Option.bind_some, Manager.holder?_retire_other hnode]
      rfl
    · simp [Manager.isPooled, Manager.pooled?, hunpooled] at hpooled
  · have hreleased : m.pooledIds.get? ref.id ≠ none := by
      simp [(hcons.inverse ref.id key).2 ⟨ref, href, rfl⟩]
    have hrelease := release_of_same hm (hcons.release_of_released hreleased true)
    rw [hrelease]
    refine ⟨iff_of_false (fun hgone => ?_) ?_, fun _ _ => rfl, fun _ => rfl⟩
    · simpa using hgone.discarded
    · simp [hcons.not_live_of_mem_released href]

/-- A released model, and one of its own that was made for the same system identifier since. -/
def successors : Forest :=
  let f : Forest := { managers := #[.standard] }
  let f := ((f.create ⟨0⟩ blankSource false).2.release ⟨0⟩ leftModel false).2
  (f.create ⟨0⟩ blankSource true).2

/-- The second of the successors. -/
def laterModel : ModelRef := ⟨1, ⟨1⟩, some "k", false⟩

theorem reachable_successors : Reachable ⟨0⟩ {} [laterModel, leftModel] successors := by
  have hstart : Reachable ⟨0⟩ {} [] { managers := #[.standard] } := .start rfl rfl
  have hreleased := (hstart.create blankSource false).release false (show leftModel ∈ _ by decide)
  exact hreleased.create blankSource true

theorem forced_release_discards_iff_successors : ∃ m, Reachable ⟨0⟩ {} [laterModel, leftModel] successors ∧
    successors.manager? ⟨0⟩ = some m ∧
    (m.holder? laterModel.id = some laterModel ∧ Gone ⟨0⟩ laterModel (successors.release ⟨0⟩ laterModel true)) ∧
    (m.holder? leftModel.id = some leftModel ∧ successors.release ⟨0⟩ leftModel true = (false, successors)) := by
  obtain ⟨m, hm, hlater, hleft, hlive, hpooled⟩ : ∃ m, successors.manager? ⟨0⟩ = some m ∧
      m.holder? laterModel.id = some laterModel ∧ m.holder? leftModel.id = some leftModel ∧
      m.live.get? laterModel.id = some laterModel ∧ m.isPooled leftModel.id = true :=
    ⟨_, rfl, rfl, rfl, rfl, rfl⟩
  refine ⟨m, reachable_successors, hm, ⟨hlater, ?_⟩, hleft, ?_⟩
  · exact (reachable_successors.forced_release_discards_iff hm hlater).1.2 hlive
  · exact (reachable_successors.forced_release_discards_iff hm hleft).2.2 hpooled

/-- The first of the successors is released once more, and to be discarded: it is reported as
kept and owns its root as before. -/
theorem forced_release_keeps_released :
    Reachable ⟨0⟩ {} [laterModel, leftModel] successors ∧ leftModel ∈ [laterModel, leftModel] ∧
    (successors.manager? ⟨0⟩).map (·.isPooled leftModel.id) = some true ∧
    ¬Gone ⟨0⟩ leftModel (successors.release ⟨0⟩ leftModel true) ∧
    (successors.release ⟨0⟩ leftModel true).1 = false ∧
    (successors.release ⟨0⟩ leftModel true).2.ownerRef ⟨0⟩ (.make ⟨0⟩ 0) = .ok leftModel := by
  have hanswer : (successors.release ⟨0⟩ leftModel true).1 = false := rfl
  refine ⟨reachable_successors, by decide, rfl, fun hgone => ?_, hanswer, rfl⟩
  exact absurd (hanswer.symm.trans hgone.discarded) (by decide)

end Reachable

end Forest

end Grove

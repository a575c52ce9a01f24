/-
When requests share a model. Which models are live, and for which request each was made
live, can be read off the events of a manager (`enlivening?`): a model stays live from the
event that made it live until it is released. The shared model of a system identifier is the
live one that was made live for a shared request (`History.sharedSince_iff`), so there is at
most one, and a model of its own is not among them.

`Annals` is a forest with all that happened to one of its managers: requests as a whole, the
requests of their feeds included, and requests that have only taken a number, between which
and their registration anything may happen, releases too.
-/
import Grove.Proofs.Forest.Reachable

namespace Grove

namespace Manager

/-- The model that an event makes live. -/
def Event.enlivened? : Event → Option ModelRef
  | .revived _ ref => some ref
  | .registered _ ref given => if given = ref then some ref else none
  | .asked | .numbered _ | .shared _ _ | .released _ _ _ => none

def Event.released? : Event → Option ModelRef
  | .released ref _ _ => some ref
  | .asked | .numbered _ | .shared _ _ | .revived _ _ | .registered _ _ _ => none

/-- The event that made a model live, if the model was not released since. -/
def enlivening? (ref : ModelRef) : List Event → Option Event
  | [] => none
  | e :: log =>
    if e.enlivened? = some ref then some e
    else if e.released? = some ref then none
    else enlivening? ref log

/-- A model is live since it was made live for a shared request. -/
def SharedSince (key : String) (ref : ModelRef) (log : List Event) : Prop :=
  ∃ e, enlivening? ref log = some e ∧ e.requested? = some (some key)

/-- What requests share, said of the events of a manager, the latest first. -/
structure Disciplined (log : List Event) : Prop where
  /-- At any moment, one live model at most was made live for shared requests of a system
  identifier. -/
  one : ∀ before, before <:+ log → ∀ key ref ref', SharedSince key ref before →
    SharedSince key ref' before → ref = ref'
  /-- While it is live, all shared requests of that identifier that are answered are answered
  with it, also those that were under way before. -/
  same : ∀ e before, e :: before <:+ log → ∀ key ref given, SharedSince key ref before →
    e.requested? = some (some key) → e.given? = some given → given = ref
  /-- A model that is made for a request of its own has a number under which nothing was
  given out before. -/
  new : ∀ ref given before, .registered none ref given :: before <:+ log →
    given = ref ∧ ∀ e ∈ before, ∀ earlier, e.given? = some earlier → earlier.id ≠ ref.id
  /-- Nobody else is given it before it is released. -/
  own : ∀ e between ref given before, e :: (between ++ .registered none ref given :: before) <:+ log →
    e.given? = some ref → ∃ force discarded, .released ref force discarded ∈ between

variable {m₀ m m' : Manager} {log before between : List Event} {e : Event} {ref : ModelRef}
  {key : String} {capacity : Nat}

/-! ## What an event does to the live and the shared models -/

/-- The shared models after a model was made live for a request. -/
def canonicalWith (m : Manager) (ref : ModelRef) : Option String → Table String ModelId
  | none => m.canonical
  | some key => m.canonical.insert key ref.id

/-- What an event comes to: nothing, a model made live that was not, or one retired. -/
inductive Turn (m : Manager) (e : Event) (m' : Manager) : Prop
  | idle : e.enlivened? = none → (∀ ref, e.released? = some ref → m.live.get? ref.id = none) →
      m'.live = m.live → m'.canonical = m.canonical → Turn m e m'
  | enlivened (ref : ModelRef) (key : Option String) : e.enlivened? = some ref →
      e.requested? = some key → m.live.get? ref.id = none →
      (∀ k, key = some k → m.shared? k = none) → m'.live = m.live.insert ref.id ref →
      m'.canonical = m.canonicalWith ref key → Turn m e m'
  | retired (ref : ModelRef) : e.enlivened? = none → e.released? = some ref →
      m.live.get? ref.id = some ref → m'.live = (m.retire ref).live →
      m'.canonical = (m.retire ref).canonical → Turn m e m'

theorem Step.turn (hstep : Step m e m') (hcons : m.Consistent capacity) (hacc : Accounted log m)
    (h : History m₀ log m) (hdue : Due log e) : Turn m e m' := by
  cases hstep with
  | asked => exact .idle rfl (by simp [Event.released?]) rfl rfl
  | shared _ => exact .idle rfl (by simp [Event.released?]) rfl rfl
  | numbered hid =>
    obtain ⟨-, -, heq⟩ := allocate_eq_ok hid
    exact .idle rfl (by simp [Event.released?]) (by rw [heq]) (by rw [heq])
  | @revived _ k r hshared hrevive =>
    obtain ⟨pool, hpool, hget, rfl⟩ := revive?_eq_some hrevive
    have hdead := hcons.not_live_of_released hpool (RecencyList.mem_of_get? hget)
    exact .enlivened r (some k) rfl rfl hdead (fun k' hk => Option.some_inj.1 hk ▸ hshared) rfl rfl
  | registered k r =>
    have hdead := (hacc.free hcons (h.numbered_lt hdue.1) hdue.2.1).not_live
    rcases register_cases m k r with ⟨rfl, heq⟩ | ⟨k, rfl, hshared, heq⟩ |
        ⟨k, existing, rfl, hshared, heq⟩ <;>
      rw [heq]
    · exact .enlivened r none (by simp [Event.enlivened?]) rfl hdead (by simp) rfl rfl
    · exact .enlivened r (some k) (by simp [Event.enlivened?]) rfl hdead
        (fun k' hk => Option.some_inj.1 hk ▸ hshared) rfl rfl
    · -- the existing model is live and the new one is not
      have hne : existing ≠ r := by
        rintro rfl
        obtain ⟨id, -, hlive⟩ := shared?_eq_some hshared
        rw [← hcons.filed id existing hlive, hdead] at hlive
        simp at hlive
      exact .idle (by simp [Event.enlivened?, hne]) (by simp [Event.released?]) rfl rfl
  | released r force =>
    have hown : ∀ held, m.live.get? r.id = some held → held = r := fun _ =>
      hacc.eq_of_live hcons h hdue
    rcases release_cases m r force with ⟨hdead, heq⟩ | ⟨⟨held, hheld⟩, heq⟩ |
      ⟨⟨held, hheld⟩, k, pool, -, -, -, heq⟩ <;> rw [heq]
    · exact .idle rfl (fun ref href => Option.some_inj.1 href ▸ hdead) rfl rfl
    · exact .retired r rfl rfl (hown held hheld ▸ hheld) rfl rfl
    · exact .retired r rfl rfl (hown held hheld ▸ hheld) rfl rfl

/-- A model that is given out is just made live, or is shared. -/
theorem Step.enlivened_or_shared (hstep : Step m e m') (hgiven : e.given? = some ref) :
    e.enlivened? = some ref ∨ ∃ key, m.shared? key = some ref := by
  cases hstep with
  | asked => simp [Event.given?] at hgiven
  | numbered _ => simp [Event.given?] at hgiven
  | released _ _ => simp [Event.given?] at hgiven
  | @shared k r hshared => exact .inr ⟨k, Option.some_inj.1 hgiven ▸ hshared⟩
  | revived _ _ => exact .inl hgiven
  | registered k r =>
    rcases register_cases m k r with ⟨-, heq⟩ | ⟨k, -, -, heq⟩ | ⟨k, existing, -, hshared, heq⟩ <;>
      rw [heq] at hgiven ⊢
    · exact .inl (by simpa [Event.enlivened?, Event.given?] using hgiven)
    · exact .inl (by simpa [Event.enlivened?, Event.given?] using hgiven)
    · exact .inr ⟨k, Option.some_inj.1 hgiven ▸ hshared⟩

/-- A shared request gets the model that is shared, if there is one. -/
theorem Step.given_of_shared (hstep : Step m e m') {given : ModelRef}
    (hshared : m.shared? key = some ref) (hkey : e.requested? = some (some key))
    (hgiven : e.given? = some given) : given = ref := by
  cases hstep with
  | asked => simp [Event.given?] at hgiven
  | numbered _ => simp [Event.given?] at hgiven
  | released _ _ => simp [Event.given?] at hgiven
  | @shared k r h =>
    obtain rfl := Option.some_inj.1 (Option.some_inj.1 hkey)
    obtain rfl := Option.some_inj.1 hgiven
    exact Option.some_inj.1 (h.symm.trans hshared)
  | revived h _ =>
    obtain rfl := Option.some_inj.1 (Option.some_inj.1 hkey)
    simp [h] at hshared
  | registered k r =>
    obtain rfl := Option.some_inj.1 hkey
    obtain rfl := Option.some_inj.1 hgiven
    simp [register, hshared]

/-! ## Live models -/

theorem live_turn (h : Turn m e m')
    (hlog : m.live.get? ref.id = some ref ↔ (enlivening? ref log).isSome) :
    m'.live.get? ref.id = some ref ↔ (enlivening? ref (e :: log)).isSome := by
  unfold enlivening?
  cases h with
  | idle henlivened hreleased hlive _ =>
    rw [henlivened, if_neg (by simp), hlive]
    split
    next href => simp [hreleased ref href]
    next => exact hlog
  | enlivened r _ henlivened hkey hdead _ hlive _ =>
    have hnot : e.released? ≠ some ref := by
      cases e <;> simp [Event.released?, Event.requested?] at hkey ⊢
    rw [henlivened, hlive]
    by_cases href : r = ref
    · simp [href]
    · rw [if_neg (by simpa using href), if_neg hnot, ← hlog, Table.get?_insert]
      split
      next hid => simp [href, hid, hdead]
      next => rfl
  | retired r henlivened hreleased hlive hgone _ =>
    rw [henlivened, if_neg (by simp), hreleased, hgone, retire, Table.get?_erase]
    by_cases href : r = ref
    · simp [href]
    · have hne : ¬some r = some ref := by simpa using href
      rw [if_neg hne, ← hlog]
      split
      next hid => simp [href, hid, hlive]
      next => rfl

/-- A model is live that was made live and not released since. -/
theorem History.live_iff {factory : Factory} {resolver : Option Resolver}
    (h : (ofFactory factory resolver capacity).History log m) (ref : ModelRef) :
    m.live.get? ref.id = some ref ↔ (enlivening? ref log).isSome := by
  induction h with
  | start => simp [ofFactory, enlivening?]
  | step h hdue hstep ih =>
    obtain ⟨hcons, hacc⟩ := h.sound
    exact live_turn (hstep.turn hcons hacc h hdue) ih

/-! ## Shared models -/

theorem retire_canonical_other {r : ModelRef} {id : ModelId} (h : m.canonical.get? key = some id)
    (hne : id ≠ r.id) : (m.retire r).canonical.get? key = some id := by
  unfold retire
  dsimp only
  split
  next k _ =>
    split
    next hk =>
      rw [Table.get?_erase_other]
      · exact h
      · rintro rfl
        exact hne (Option.some_inj.1 (h.symm.trans hk))
    next => exact h
  next => exact h

theorem shared?_eq_some_iff (hfiled : ∀ id held, m.live.get? id = some held → held.id = id) :
    m.shared? key = some ref ↔ m.canonical.get? key = some ref.id ∧ m.live.get? ref.id = some ref := by
  constructor
  · intro h
    obtain ⟨id, hid, hlive⟩ := shared?_eq_some h
    obtain rfl := hfiled id ref hlive
    exact ⟨hid, hlive⟩
  · rintro ⟨hid, hlive⟩
    simp [shared?, hid, hlive]

theorem shared_enlivened {r : ModelRef} {asked : Option String} (hcons : m.Consistent capacity)
    (hdead : m.live.get? r.id = none) (hnone : ∀ k, asked = some k → m.shared? k = none)
    (key : String) (ref : ModelRef) :
    ((m.canonicalWith r asked).get? key = some ref.id ∧
        (m.live.insert r.id r).get? ref.id = some ref) ↔
      if r = ref then asked = some key else m.shared? key = some ref := by
  have hother : m.canonical.get? key ≠ some r.id := by
    intro hcanonical
    obtain ⟨held, hheld, -⟩ := hcons.shared key r.id hcanonical
    simp [hdead] at hheld
  split
  next href =>
    subst href
    rw [Table.get?_insert_self]
    cases asked with
    | none => simp [canonicalWith, hother]
    | some k => by_cases hk : key = k <;> simp [canonicalWith, Table.get?_insert, hk, hother, eq_comm]
  next href =>
    rw [shared?_eq_some_iff hcons.filed, Table.get?_insert]
    by_cases hid : ref.id = r.id
    · simp [hid, href, hdead]
    · rw [if_neg hid]
      refine and_congr_left fun hlive => ?_
      cases asked with
      | none => rfl
      | some k =>
        rw [canonicalWith, Table.get?_insert]
        split
        next hk =>
          -- a shared model of this identifier would have been given out
          have hold : m.canonical.get? key ≠ some ref.id := by
            intro hcanonical
            have hshared := (shared?_eq_some_iff hcons.filed).2 ⟨hcanonical, hlive⟩
            simp [hk, hnone k rfl] at hshared
          simp [hold, Ne.symm hid]
        next => rfl

theorem shared_retired {r : ModelRef} (hcons : m.Consistent capacity)
    (hlive : m.live.get? r.id = some r) (key : String) (ref : ModelRef) :
    ((m.retire r).canonical.get? key = some ref.id ∧
        (m.retire r).live.get? ref.id = some ref) ↔ r ≠ ref ∧ m.shared? key = some ref := by
  have hgone : (m.retire r).live = m.live.erase r.id := rfl
  rw [shared?_eq_some_iff hcons.filed, hgone, Table.get?_erase]
  by_cases hid : ref.id = r.id
  · rw [if_pos hid]
    constructor
    · simp
    · rintro ⟨hne, -, hheld⟩
      rw [hid, hlive] at hheld
      exact absurd (Option.some_inj.1 hheld) hne
  · rw [if_neg hid]
    constructor
    · rintro ⟨hcanonical, hheld⟩
      have hne : r ≠ ref := by
        rintro rfl
        exact hid rfl
      exact ⟨hne, (retire_canonical hcanonical).1, hheld⟩
    · rintro ⟨-, hcanonical, hheld⟩
      exact ⟨retire_canonical_other hcanonical hid, hheld⟩

theorem sharedSince_turn (h : Turn m e m') (hcons : m.Consistent capacity)
    (hcons' : m'.Consistent capacity) (hlog : SharedSince key ref log ↔ m.shared? key = some ref) :
    SharedSince key ref (e :: log) ↔ m'.shared? key = some ref := by
  rw [shared?_eq_some_iff hcons'.filed]
  unfold SharedSince enlivening?
  cases h with
  | idle henlivened hreleased hlive hcanonical =>
    rw [henlivened, if_neg (by simp), hlive, hcanonical]
    split
    next href => simp [hreleased ref href]
    next => exact hlog.trans (shared?_eq_some_iff hcons.filed)
  | enlivened r asked henlivened hkey hdead hnone hlive hcanonical =>
    have hnot : e.released? ≠ some ref := by
      cases e <;> simp [Event.released?, Event.requested?] at hkey ⊢
    rw [hlive, hcanonical, shared_enlivened hcons hdead hnone, henlivened]
    by_cases href : r = ref
    · simp [href, hkey]
    · rw [if_neg (by simpa using href), if_neg hnot, if_neg href]
      exact hlog
  | retired r henlivened hreleased hlive hgone hcanonical =>
    rw [hgone, hcanonical, shared_retired hcons hlive, henlivened, if_neg (by simp), hreleased]
    by_cases href : r = ref
    · simp [href]
    · rw [if_neg (by simpa using href)]
      exact hlog.trans (by simp [href])

/-- The shared model of a system identifier is the one that is live since it was made live
for a shared request. -/
theorem History.sharedSince_iff {factory : Factory} {resolver : Option Resolver}
    (h : (ofFactory factory resolver capacity).History log m) (key : String) (ref : ModelRef) :
    SharedSince key ref log ↔ m.shared? key = some ref := by
  induction h with
  | start => simp [ofFactory, SharedSince, enlivening?, shared?]
  | step h hdue hstep ih =>
    obtain ⟨hcons, hacc⟩ := h.sound
    exact sharedSince_turn (hstep.turn hcons hacc h hdue) hcons (hcons.step hacc h hdue hstep) ih

/-! ## Models of their own -/

theorem register_none (m : Manager) (ref : ModelRef) : (m.register none ref).1 = ref := rfl

/-- An event leaves alone what made a model live, unless it releases the model. -/
theorem Turn.enlivening?_eq (h : Turn m e m') (hlive : m.live.get? ref.id = some ref)
    (hkept : e.released? ≠ some ref) : enlivening? ref (e :: log) = enlivening? ref log := by
  have hnot : e.enlivened? ≠ some ref := by
    cases h with
    | idle henlivened _ _ _ => simp [henlivened]
    | enlivened r _ henlivened _ hdead _ _ _ =>
      rw [henlivened]
      rintro heq
      obtain rfl := Option.some_inj.1 heq
      simp [hdead] at hlive
    | retired r henlivened _ _ _ _ => simp [henlivened]
  rw [enlivening?, if_neg hnot, if_neg hkept]

namespace History

variable {factory : Factory} {resolver : Option Resolver}

theorem exists_of_suffix (h : History m₀ log m) (hbefore : before <:+ log) :
    ∃ m', History m₀ before m' := by
  obtain ⟨after, rfl⟩ := hbefore
  exact h.before

/-- A model stays as it was made live while it is not released. -/
theorem enlivening?_append {given : ModelRef} : ∀ {between : List Event} {m : Manager},
    (ofFactory factory resolver capacity).History
      (between ++ .registered none ref given :: before) m →
    (∀ force discarded, .released ref force discarded ∉ between) →
    enlivening? ref (between ++ .registered none ref given :: before) =
      some (.registered none ref given)
  | [], _, h, _ => by
    cases h with
    | step _ _ hstep =>
      cases hstep
      simp [enlivening?, Event.enlivened?, register_none]
  | e :: between, _, h, hkept => by
    cases h with
    | step h hdue hstep =>
      obtain ⟨hcons, hacc⟩ := h.sound
      have hsame := h.enlivening?_append fun force discarded hmem =>
        hkept force discarded (List.mem_cons_of_mem _ hmem)
      have hlive := (h.live_iff ref).2 (by simp [hsame])
      refine ((hstep.turn hcons hacc h hdue).enlivening?_eq hlive fun hreleased => ?_).trans hsame
      cases e with
      | released r force discarded =>
        obtain rfl := Option.some_inj.1 hreleased
        exact hkept force discarded List.mem_cons_self
      | _ => simp [Event.released?] at hreleased

theorem disciplined (h : (ofFactory factory resolver capacity).History log m) :
    Disciplined log where
  one := by
    intro before hbefore key ref ref' href href'
    obtain ⟨m', h'⟩ := h.exists_of_suffix hbefore
    rw [h'.sharedSince_iff] at href href'
    exact Option.some_inj.1 (href.symm.trans href')
  same := by
    intro e before hbefore key ref given href hkey hgiven
    obtain ⟨m', h'⟩ := h.exists_of_suffix hbefore
    cases h' with
    | step h' _ hstep => exact hstep.given_of_shared ((h'.sharedSince_iff key ref).1 href) hkey hgiven
  new := by
    intro ref given before hbefore
    obtain ⟨m', h'⟩ := h.exists_of_suffix hbefore
    cases h' with
    | step h' hdue hstep =>
      refine ⟨by cases hstep; rfl, fun e he earlier hearlier => ?_⟩
      obtain ⟨key, hmem⟩ := h'.sound.2.given e he earlier hearlier
      exact hdue.2.1 _ _ _ hmem
  own := by
    intro e between ref given before hbefore hgiven
    obtain ⟨m', h'⟩ := h.exists_of_suffix hbefore
    by_contra hkept
    cases h' with
    | step h' hdue hstep =>
      obtain ⟨hcons, hacc⟩ := h'.sound
      have hsince := h'.enlivening?_append fun force discarded hmem => hkept ⟨force, discarded, hmem⟩
      have hlive := (h'.live_iff ref).2 (by simp [hsince])
      rcases hstep.enlivened_or_shared hgiven with henlivened | ⟨key, hshared⟩
      · cases hstep.turn hcons hacc h' hdue with
        | idle hnone _ _ _ => simp [henlivened] at hnone
        | enlivened r _ heq _ hdead _ _ _ =>
          obtain rfl := Option.some_inj.1 (heq.symm.trans henlivened)
          simp [hdead] at hlive
        | retired r hnone _ _ _ _ => simp [henlivened] at hnone
      · obtain ⟨e', he', hkey⟩ := (h'.sharedSince_iff key ref).2 hshared
        obtain rfl := Option.some_inj.1 (he'.symm.trans hsince)
        simp [Event.requested?] at hkey

end History

end Manager

namespace Forest

open Manager (Event Disciplined SharedSince enlivening?)

/-- A forest with all that happened to one of its managers, the latest event first. -/
inductive Annals (r : ManagerRef) (config : ManagerConfig) : List Event → Forest → Prop
  | start {f : Forest} {m₀ : Manager} :
      Manager.ofConfig config = .ok m₀ → f.manager? r = some m₀ → Annals r config [] f
  | create {log : List Event} {f : Forest} (source : Source) (unique : Bool) : Annals r config log f →
      Annals r config (f.createEvents r source unique ++ log) (f.create r source unique).2
  | createFragment {log : List Event} {f : Forest} : Annals r config log f →
      Annals r config (f.createFragmentEvents r ++ log) (f.createFragment r).2
  | release {log : List Event} {f : Forest} {ref : ModelRef} (force : Bool) : Annals r config log f →
      (∃ e ∈ log, e.given? = some ref) →
      Annals r config (.released ref force (f.release r ref force).1 :: log) (f.release r ref force).2
  /-- A request that found no model asks the resolver for a feed. -/
  | asked {log : List Event} {f : Forest} {m : Manager} : Annals r config log f →
      f.manager? r = some m →
      Annals r config (.asked :: log) (f.setManager r { m with resolverCalls := m.resolverCalls + 1 })
  /-- A request that found a feed takes a number. Until it is settled, if ever, its feed may
  do anything with the manager. -/
  | numbered {log : List Event} {f : Forest} {m m' : Manager} {id : ModelId} : Annals r config log f →
      f.manager? r = some m → m.allocate = .ok (id, m') →
      Annals r config (.numbered id :: log) (f.setManager r m')
  /-- A model is registered under a number that was given out and not used. -/
  | settled {log : List Event} {f : Forest} (key : Option String) (model : Model) :
      Annals r config log f → .numbered model.id ∈ log →
      (∀ key' ref given, .registered key' ref given ∈ log → ref.id ≠ model.id) →
      (∀ k, key = some k → model.systemId = some k) →
      Annals r config (f.settleEvents r key model ++ log) (f.settle r key model).2
  /-- Owners are looked up, trees are extended, and other managers do what they do. -/
  | aside {log : List Event} {f f' : Forest} : Annals r config log f →
      f'.manager? r = f.manager? r → Annals r config log f'

namespace Annals

variable {r : ManagerRef} {config : ManagerConfig} {f : Forest} {log : List Event}

theorem logged (h : Annals r config log f) : ∃ factory,
    f.Logged (Manager.ofFactory factory config.resolver config.poolCapacity) r log := by
  induction h with
  | start hconfig hm =>
    obtain ⟨factory, rfl⟩ := Manager.ofConfig_eq_ok hconfig
    exact ⟨factory, _, hm, .start⟩
  | create source unique _ ih => exact ih.imp fun _ hlog => (hlog.create source unique).1.logged
  | createFragment _ ih => exact ih.imp fun _ hlog => hlog.createFragment.1.logged
  | release force _ hgiven ih => exact ih.imp fun _ hlog => hlog.release hgiven force
  | asked _ hm ih => exact ih.imp fun _ hlog => hlog.step hm .asked trivial
  | numbered _ hm hid ih => exact ih.imp fun _ hlog => hlog.step hm (.numbered hid) trivial
  | settled key model _ hnumbered hnew hkey ih =>
    obtain ⟨factory, hlog⟩ := ih
    obtain ⟨_, -, -, hsettled⟩ := hlog.settle hnumbered hnew hkey
    exact ⟨factory, hsettled⟩
  | aside _ hsame ih =>
    obtain ⟨factory, m, hm, hhistory⟩ := ih
    exact ⟨factory, m, hsame.trans hm, hhistory⟩

/-- What requests share is disciplined, whatever happens to a manager; the live models are
those of which the events say so; a request that succeeds is answered by its last event; and
while a model is live that was made live for a shared request, the next shared request of
its system identifier gets it. -/
theorem sharing_disciplined (h : Annals r config log f) :
    Disciplined log ∧
    (∃ m, f.manager? r = some m ∧
      ∀ ref, m.live.get? ref.id = some ref ↔ (enlivening? ref log).isSome) ∧
    (∀ source unique ref, (f.create r source unique).1.outcome = .ok ref →
      Answers (if unique then none else source.systemId) ref (f.createEvents r source unique)) ∧
    (∀ ref, (f.createFragment r).1 = .ok ref → Answers none ref (f.createFragmentEvents r)) ∧
    (∀ key ref source, SharedSince key ref log → source.systemId = some key →
      (f.create r source false).1.outcome = .ok ref) := by
  obtain ⟨factory, hlog⟩ := h.logged
  obtain ⟨m, hm, hhistory⟩ := id hlog
  refine ⟨hhistory.disciplined, ⟨m, hm, hhistory.live_iff⟩,
    fun source unique => (hlog.create source unique).2, hlog.createFragment.2, ?_⟩
  intro key ref source hsince hkey
  have hshared := (hhistory.sharedSince_iff key ref).1 hsince
  simp [create_eq, answer, hm, hkey, reuse?, hshared]

/-- The twins have the same system identifier, and the first of them is shared. -/
theorem sharing_disciplined_twins : ∃ log, Annals ⟨0⟩ { poolCapacity := 1 } log Reachable.twins ∧
    SharedSince "k" ⟨0, ⟨1⟩, some "k", false⟩ log ∧ Disciplined log ∧
    (Reachable.twins.create ⟨0⟩ Reachable.selfishSource false).1.outcome =
      .ok ⟨0, ⟨1⟩, some "k", false⟩ := by
  have hstart : Annals ⟨0⟩ { poolCapacity := 1 } [] { managers := #[.ofFactory .default none 1] } :=
    .start rfl rfl
  obtain ⟨log, htwins, hevents⟩ : ∃ log, Annals ⟨0⟩ { poolCapacity := 1 } log Reachable.twins ∧
      log = [.registered none ⟨2, ⟨2⟩, some "k", false⟩ ⟨2, ⟨2⟩, some "k", false⟩, .numbered ⟨2⟩,
        .registered (some "k") ⟨1, ⟨0⟩, some "k", false⟩ ⟨0, ⟨1⟩, some "k", false⟩,
        .registered (some "k") ⟨0, ⟨1⟩, some "k", false⟩ ⟨0, ⟨1⟩, some "k", false⟩, .numbered ⟨1⟩,
        .numbered ⟨0⟩] :=
    ⟨_, (hstart.create Reachable.selfishSource false).create
      (.make (some "k") (some .nothing) none) true, rfl⟩
  subst hevents
  obtain ⟨hdisciplined, -, -, -, hnext⟩ := htwins.sharing_disciplined
  exact ⟨_, htwins, ⟨_, rfl, rfl⟩, hdisciplined, hnext "k" _ _ ⟨_, rfl, rfl⟩ rfl⟩

end Annals

end Forest

end Grove

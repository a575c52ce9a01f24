/-
The released models of a manager. Which of them it keeps, and in which order, can be read off
its events (`shelf`): a live document that is released stands in front, in place of one of the
same system identifier, and the last one makes room if there is none left; a shared request
that meets no live model takes the one of its system identifier back. The pool is that list
(`History.released_eq_shelf`), so that all that a forest tells of released models is read off
it (`Forest.Annals.shelved`).
-/
import Grove.Proofs.Forest.Sharing

namespace Grove

namespace Manager

/-- The released models, the last released first, after a live model is released: a document
with a system identifier is put in front, unless it is to be discarded. -/
def shelve (capacity : Nat) (ref : ModelRef) (force : Bool) (shelf : List (String × ModelRef)) :
    List (String × ModelRef) :=
  match if force || ref.isFragment then none else ref.systemId with
  | some key => ((key, ref) :: shelf.filter (·.1 ≠ key)).take capacity
  | none => shelf

/-- The released models that are kept after some events, the last released first. -/
def shelf (capacity : Nat) : List Event → List (String × ModelRef)
  | [] => []
  | .released ref force _ :: log =>
    if (enlivening? ref log).isSome then shelve capacity ref force (shelf capacity log)
    else shelf capacity log
  | .revived key _ :: log => (shelf capacity log).filter (·.1 ≠ key)
  | .asked :: log | .numbered _ :: log | .shared _ _ :: log | .registered _ _ _ :: log =>
    shelf capacity log

variable {m m' : Manager} {log before : List Event} {e : Event} {ref : ModelRef} {key : String}
  {capacity : Nat}

/-! ## Releasing a live model -/

namespace Consistent

variable (h : m.Consistent capacity)
include h

/-- A live model that is released is kept exactly if it is in the pool then. -/
theorem release_eq_false_iff (hlive : m.live.get? ref.id = some ref) (force : Bool) :
    (m.release ref force).1 = false ↔ ∃ key, (key, ref) ∈ (m.release ref force).2.released := by
  rcases release_cases m ref force with ⟨hdead, -⟩ | ⟨-, heq⟩ | ⟨-, key, pool, -, hpool, -, heq⟩
  · simp [hlive] at hdead
  · rw [heq]
    refine ⟨by simp, ?_⟩
    rintro ⟨key, href : (key, ref) ∈ m.released⟩
    simp [h.not_live_of_mem_released href] at hlive
  · rw [heq, released_of_some (keep_pool _ pool key ref)]
    have hput := (h.pool_of_some hpool).2.put_spec key ref
    exact ⟨fun _ => ⟨key, (hput.mem_iff _).2 (.inl rfl)⟩, fun _ => rfl⟩

/-- The pool after a live model is released. -/
theorem released_release (hlive : m.live.get? ref.id = some ref) (force : Bool) :
    (m.release ref force).2.released = shelve capacity ref force m.released := by
  have hretired : (m.retire ref).pool = m.pool := rfl
  unfold Manager.release shelve Table.contains
  rw [hlive, Option.isSome_some, if_pos rfl]
  dsimp only
  rw [hretired]
  cases hkey : ref.systemId with
  | none =>
    rw [ite_self]
    rfl
  | some key =>
    cases hdiscard : force || ref.isFragment with
    | true => cases m.pool <;> rfl
    | false =>
      have hroom := h.pool
      cases hpool : m.pool with
      | none =>
        -- without a pool there is no room for the model
        rw [hpool] at hroom
        obtain rfl : capacity = 0 := hroom
        simp [released, hretired, hpool]
      | some pool =>
        obtain ⟨rfl, hwf⟩ := h.pool_of_some hpool
        rw [released_of_some hpool]
        exact hwf.entries_put key ref

omit h in
theorem pool_of_no_room (h : m.Consistent 0) : m.pool = none := by
  by_contra hsome
  obtain ⟨pool, hpool⟩ := Option.ne_none_iff_exists'.1 hsome
  obtain ⟨hzero, hwf⟩ := h.pool_of_some hpool
  exact Nat.ne_of_gt hwf.roomy hzero

omit h in
theorem release_of_no_room (h : m.Consistent 0) (ref : ModelRef) (force : Bool) :
    (m.release ref force).1 = true := by
  have hpool := h.pool_of_no_room
  rcases release_cases m ref force with ⟨-, heq⟩ | ⟨-, heq⟩ | ⟨-, key, pool, -, hsome, -, -⟩
  · have hnot : m.pooledIds.get? ref.id = none := by
      by_contra hreleased
      obtain ⟨key, hkey⟩ := Option.ne_none_iff_exists'.1 hreleased
      obtain ⟨held, hheld, -⟩ := (h.inverse ref.id key).1 hkey
      simp [released, hpool] at hheld
    simp [heq, Table.contains, hnot]
  · rw [heq]
  · simp [hpool] at hsome

end Consistent

/-! ## The pool as a list of the events -/

section

variable {factory : Factory} {resolver : Option Resolver}

theorem History.released_eq_shelf (h : (ofFactory factory resolver capacity).History log m) :
    m.released = shelf capacity log := by
  induction h with
  | start => exact released_ofFactory factory resolver capacity
  | @step log m m' e h hdue hstep ih =>
    obtain ⟨hcons, hacc⟩ := h.sound
    cases hstep with
    | asked => exact ih
    | shared _ => exact ih
    | numbered hid =>
      obtain ⟨-, -, heq⟩ := allocate_eq_ok hid
      rw [heq]
      exact ih
    | revived _ hrevive =>
      obtain ⟨pool, hpool, -, rfl⟩ := revive?_eq_some hrevive
      rw [shelf, ← ih, released_of_some hpool]
      rfl
    | registered key ref =>
      rcases register_cases m key ref with ⟨-, heq⟩ | ⟨k, -, -, heq⟩ | ⟨k, existing, -, -, heq⟩ <;>
        rw [heq] <;> exact ih
    | released ref force =>
      rw [shelf, ← ih]
      by_cases hlive : m.live.get? ref.id = some ref
      · rw [if_pos ((h.live_iff ref).1 hlive)]
        exact hcons.released_release hlive force
      · have hdead : m.live.get? ref.id = none :=
          Option.eq_none_iff_forall_ne_some.2 fun held hheld =>
            hlive (hacc.eq_of_live hcons h hdue hheld ▸ hheld)
        have hsame : (m.release ref force).2 = m := by simp [release, Table.contains, hdead]
        rw [hsame, if_neg (hlive ∘ (h.live_iff ref).2)]

/-- A live model that is released is kept exactly if it is on the list then. -/
theorem History.discarded_eq_false_iff {force discarded : Bool}
    (h : (ofFactory factory resolver capacity).History (.released ref force discarded :: log) m)
    (hlive : (enlivening? ref log).isSome) : discarded = false ↔
      ∃ key, (key, ref) ∈ shelf capacity (.released ref force discarded :: log) := by
  rw [← h.released_eq_shelf]
  cases h with
  | step h _ hstep =>
    cases hstep
    exact h.sound.1.release_eq_false_iff ((h.live_iff ref).2 hlive) force

/-- What is revived was released and is on the list, and no live model is shared. -/
theorem History.revived_mem {key : String}
    (h : (ofFactory factory resolver capacity).History (.revived key ref :: log) m) :
    (∀ other, ¬SharedSince key other log) ∧ (key, ref) ∈ shelf capacity log := by
  cases h with
  | step h _ hstep =>
    cases hstep with
    | revived hshared hrevive =>
      obtain ⟨pool, hpool, hget, -⟩ := revive?_eq_some hrevive
      refine ⟨fun other hother => ?_, ?_⟩
      · simp [(h.sharedSince_iff key other).1 hother] at hshared
      · rw [← h.released_eq_shelf, released_of_some hpool]
        exact RecencyList.mem_of_get? hget

end

end Manager

namespace Forest

open Manager (Event SharedSince enlivening? shelf)

variable {r : ManagerRef} {f : Forest} {m : Manager} {ref : ModelRef}

/-- A model that a manager holds owns the nodes that it has. -/
theorem ownerRef_of_holder (hm : f.manager? r = some m) {node : NodeHandle}
    (hholder : m.holder? ref.id = some ref) (hnode : node.model = ref.id) :
    f.ownerRef r node =
      if node.index.toNat < (f.model ref).size then .ok ref else .error (.invalidHandle node) := by
  have hid : (f.model ref).id = ref.id := rfl
  simp [ownerRef, hm, hnode, hholder, Model.contains, hid]

/-- What a forest tells of the released models of a manager, and what becomes of them, said
of the list that the events of the manager come to. -/
structure Shelved (r : ManagerRef) (capacity : Nat) (log : List Event) (f : Forest) (m : Manager) :
    Prop where
  /-- A model is live that was made live and not released since. -/
  live : ∀ ref, m.live.get? ref.id = some ref ↔ (enlivening? ref log).isSome
  /-- A live model is shared for a system identifier if it was made live for it. -/
  shared : ∀ key ref, m.shared? key = some ref ↔ SharedSince key ref log
  /-- The pool is the list. -/
  released : m.released = shelf capacity log
  isPooled : ∀ id, m.isPooled id = true ↔ ∃ e ∈ shelf capacity log, e.2.id = id
  pooledCount : m.pooledCount = (shelf capacity log).length
  /-- The models on the list own their nodes. -/
  owner : ∀ key ref, (key, ref) ∈ shelf capacity log → ∀ node, node.model = ref.id →
    f.ownerRef r node =
      if node.index.toNat < (f.model ref).size then .ok ref else .error (.invalidHandle node)
  /-- A live model that is released is reported as kept exactly if it is on the list then. -/
  answer : ∀ ref force, (enlivening? ref log).isSome → ((f.release r ref force).1 = false ↔
    ∃ key, (key, ref) ∈ shelf capacity (.released ref force (f.release r ref force).1 :: log))
  /-- A shared request that meets no live model is answered with the one on the list, which
  is taken off. -/
  revival : ∀ key ref source, source.systemId = some key → (∀ other, ¬SharedSince key other log) →
    (key, ref) ∈ shelf capacity log → (f.create r source false).1.outcome = .ok ref ∧
      f.createEvents r source false = [.revived key ref]
  /-- No model is brought back otherwise. -/
  revived : ∀ key ref before, .revived key ref :: before <:+ log →
    (∀ other, ¬SharedSince key other before) ∧ (key, ref) ∈ shelf capacity before

namespace Annals

variable {config : ManagerConfig} {log : List Event}

/-- The released models of a manager are the list that its events say, the last released
first, and nothing is kept where there is no room. -/
theorem shelved (h : Annals r config log f) :
    ∃ m, f.manager? r = some m ∧ Shelved r config.poolCapacity log f m ∧
      (config.poolCapacity = 0 → shelf config.poolCapacity log = [] ∧
        ∀ ref force, (f.release r ref force).1 = true) := by
  obtain ⟨factory, m, hm, hhistory⟩ := h.logged
  obtain ⟨hcons, -⟩ := hhistory.sound
  have hshelf := hhistory.released_eq_shelf
  have hrelease : ∀ ref force, (f.release r ref force).1 = (m.release ref force).1 := by
    intro ref force
    simp only [Forest.release, hm]
  have hsharing : ∀ key ref, m.shared? key = some ref ↔ SharedSince key ref log := fun key ref =>
    (hhistory.sharedSince_iff key ref).symm
  refine ⟨m, hm, ⟨hhistory.live_iff, hsharing, hshelf, fun id => ?_, ?_, ?_, ?_, ?_, ?_⟩,
    fun hzero => ?_⟩
  · rw [hcons.isPooled_iff, hshelf]
  · rw [m.pooledCount_eq, hshelf]
  · intro key ref href node hnode
    have hholder := hcons.holder?_eq_some_iff.2 ⟨.inr ⟨key, hshelf ▸ href⟩, rfl⟩
    exact ownerRef_of_holder hm hholder hnode
  · intro ref force hlive
    obtain ⟨key, hmade⟩ := hhistory.sound.2.live ref.id ref ((hhistory.live_iff ref).2 hlive)
    have hgiven : ∃ e ∈ log, e.given? = some ref := ⟨_, hmade, rfl⟩
    obtain ⟨_, -, hlater⟩ := Logged.release ⟨m, hm, hhistory⟩ hgiven force
    exact hlater.discarded_eq_false_iff hlive
  · intro key ref source hkey hnone href
    have hshared : m.shared? key = none := Option.eq_none_iff_forall_ne_some.2 fun other hother =>
      hnone other ((hsharing key other).1 hother)
    obtain ⟨pool, hpool, hget⟩ := hcons.get?_pool_of_released (hshelf ▸ href)
    obtain ⟨m', hrevive⟩ := Manager.exists_revive?_of_get? hpool hget
    refine ⟨?_, ?_⟩
    · simp [create_eq, answer, hm, hkey, reuse?, hshared, hrevive]
    · simp [createEvents, answerEvents, hm, hkey, reuse?, hshared, hrevive, reuseEvents]
  · intro key ref before hbefore
    obtain ⟨m', h'⟩ := hhistory.exists_of_suffix hbefore
    exact h'.revived_mem
  · rw [hzero] at hcons
    refine ⟨?_, fun ref force => (hrelease ref force).trans (hcons.release_of_no_room ref force)⟩
    rw [← hshelf, Manager.released, hcons.pool_of_no_room]
    rfl

/-- A document of a system identifier with nothing in it. -/
def blank (key : String) : Source := .make (some key) (some .nothing) none

/-- With room for two, three documents are released and the second is asked for again: the
first made room for the third, and the second is live. -/
theorem shelved_two : ∃ log f m, Annals ⟨0⟩ { poolCapacity := 2 } log f ∧ f.manager? ⟨0⟩ = some m ∧
    Shelved ⟨0⟩ 2 log f m ∧ shelf 2 log = [("c", ⟨2, ⟨2⟩, some "c", false⟩)] ∧
    (enlivening? ⟨1, ⟨1⟩, some "b", false⟩ log).isSome := by
  have hstart : Annals ⟨0⟩ { poolCapacity := 2 } [] { managers := #[.ofFactory .default none 2] } :=
    .start rfl rfl
  have hmade :=
    ((hstart.create (blank "a") false).create (blank "b") false).create (blank "c") false
  have hfirst := hmade.release false
    (show ∃ e ∈ _, Event.given? e = some ⟨0, ⟨0⟩, some "a", false⟩ by decide)
  have hsecond := hfirst.release false
    (show ∃ e ∈ _, Event.given? e = some ⟨1, ⟨1⟩, some "b", false⟩ by decide)
  have hthird := hsecond.release false
    (show ∃ e ∈ _, Event.given? e = some ⟨2, ⟨2⟩, some "c", false⟩ by decide)
  have hagain := hthird.create (blank "b") false
  obtain ⟨m, hm, hshelved, -⟩ := hagain.shelved
  exact ⟨_, _, m, hagain, hm, hshelved, rfl, rfl⟩

end Annals

end Forest

end Grove

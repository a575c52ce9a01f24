/-
The tables of a manager agree. A model is live or released but not both; the pool and
the table of released numbers are inverse to each other; the pool keeps documents
under their own system identifiers, and no more than it may; a shared model is live
under the system identifier it is shared for; and no number beyond the next one is in
use. `Consistent` says so, and the lemmas below say under which conditions each change
of a manager keeps it.
-/
import Grove.Forest.Manager
import Grove.Proofs.Forest.Recency

namespace Grove.Manager

/-- The released models with the system identifiers under which they are kept. -/
def released (m : Manager) : List (String × ModelRef) := (m.pool.map (·.entries)).getD []

/-- The pool a manager has when it may keep so many models. -/
def PoolFor (capacity : Nat) : Option (RecencyList String ModelRef) → Prop
  | none => capacity = 0
  | some pool => pool.capacity = capacity ∧ pool.WellFormed

structure Consistent (capacity : Nat) (m : Manager) : Prop where
  /-- There is a pool if it may hold anything, and it holds no more than it may and a
  system identifier at most once. -/
  pool : PoolFor capacity m.pool
  /-- A number is not that of a live and of a released model. -/
  apart : ∀ id, m.live.get? id ≠ none → m.pooledIds.get? id = none
  /-- The table of released numbers is the inverse of the pool. -/
  inverse : ∀ id key, m.pooledIds.get? id = some key ↔ ∃ ref, (key, ref) ∈ m.released ∧ ref.id = id
  /-- Released models are documents, each under its own system identifier. -/
  document : ∀ key ref, (key, ref) ∈ m.released → ref.systemId = some key ∧ ref.isFragment = false
  /-- The shared model of a system identifier is live and has that identifier. -/
  shared : ∀ key id, m.canonical.get? key = some id →
    ∃ ref, m.live.get? id = some ref ∧ ref.systemId = some key
  /-- A live model is filed under its own number. -/
  filed : ∀ id ref, m.live.get? id = some ref → ref.id = id
  /-- Numbers in use are below the next one. -/
  numbered : ∀ id, m.live.get? id ≠ none ∨ m.pooledIds.get? id ≠ none → id.val < m.nextId

theorem released_of_some {m : Manager} {pool : RecencyList String ModelRef}
    (hpool : m.pool = some pool) : m.released = pool.entries := by
  simp [released, hpool]

theorem exists_pool_of_released {m : Manager} {entry : String × ModelRef}
    (h : entry ∈ m.released) : ∃ pool, m.pool = some pool ∧ entry ∈ pool.entries := by
  cases hpool : m.pool with
  | none => simp [released, hpool] at h
  | some pool => exact ⟨pool, rfl, released_of_some hpool ▸ h⟩

theorem mem_released_of_pooled? {m : Manager} {id : ModelId} {ref : ModelRef}
    (h : m.pooled? id = some ref) : (∃ key, (key, ref) ∈ m.released) ∧ ref.id = id := by
  obtain ⟨key, -, h⟩ := Option.bind_eq_some_iff.1 h
  obtain ⟨pool, hpool, h⟩ := Option.bind_eq_some_iff.1 h
  obtain ⟨hget, hid⟩ := Option.filter_eq_some_iff.1 h
  exact ⟨⟨key, released_of_some hpool ▸ RecencyList.mem_of_get? hget⟩, by simpa using hid⟩

theorem pooledCount_eq (m : Manager) : m.pooledCount = m.released.length := by
  cases hpool : m.pool <;> simp [pooledCount, released, hpool, RecencyList.size]

theorem released_ofFactory (factory : Factory) (resolver : Option Resolver) (capacity : Nat) :
    (ofFactory factory resolver capacity).released = [] := by
  unfold ofFactory released
  split <;> rfl

theorem ofConfig_eq_ok {config : ManagerConfig} {m : Manager} (h : ofConfig config = .ok m) :
    ∃ factory, m = ofFactory factory config.resolver config.poolCapacity := by
  obtain ⟨factory, -, rfl⟩ := map_eq_ok_iff.1 h
  exact ⟨factory, rfl⟩

theorem revive?_eq_some {m m' : Manager} {key : String} {ref : ModelRef}
    (h : m.revive? key = some (ref, m')) : ∃ pool, m.pool = some pool ∧ pool.get? key = some ref ∧
      m' = { m with pool := some (pool.take key).1, pooledIds := m.pooledIds.erase ref.id }.share key ref := by
  obtain ⟨pool, hpool, h⟩ := Option.bind_eq_some_iff.1 h
  obtain ⟨taken, htaken, h⟩ := Option.bind_eq_some_iff.1 h
  obtain ⟨rfl, rfl⟩ : taken = ref ∧ _ = m' := by simpa using h
  exact ⟨pool, hpool, htaken, rfl⟩

theorem exists_revive?_of_get? {m : Manager} {pool : RecencyList String ModelRef} {key : String}
    {ref : ModelRef} (hpool : m.pool = some pool) (hget : pool.get? key = some ref) :
    ∃ m', m.revive? key = some (ref, m') := by
  simp [revive?, hpool, RecencyList.take, hget]

theorem retire_canonical {m : Manager} {ref : ModelRef} {key : String} {id : ModelId}
    (h : (m.retire ref).canonical.get? key = some id) :
    m.canonical.get? key = some id ∧ (ref.systemId = some key → id ≠ ref.id) := by
  unfold retire at h
  dsimp only at h
  split at h
  next k hk =>
    split at h
    next hshared =>
      obtain ⟨hne, h⟩ := Table.eq_some_of_erase h
      exact ⟨h, fun heq => absurd (Option.some_inj.1 (heq.symm.trans hk)) hne⟩
    next hother =>
      refine ⟨h, ?_⟩
      rintro heq rfl
      rw [← Option.some_inj.1 (heq.symm.trans hk)] at hother
      exact hother h
  next hnone => exact ⟨h, fun heq => by simp [hnone] at heq⟩

section

variable (m : Manager) (pool : RecencyList String ModelRef) (key : String) (ref : ModelRef)

theorem keep_pool : (m.keep pool key ref).pool = some (pool.put key ref).1 := rfl

/-- The released numbers after a model is kept: without the one pushed out, and with
the one kept. -/
theorem get?_keep (id : ModelId) : (m.keep pool key ref).pooledIds.get? id =
    if ∃ e, (pool.put key ref).2 = some e ∧ e.2.id = id then none
    else if id = ref.id then some key else m.pooledIds.get? id := by
  unfold keep
  generalize pool.put key ref = put
  obtain ⟨after, out⟩ := put
  cases out with
  | none => simp [Table.get?_insert]
  | some e => simp [Table.get?_insert, Table.get?_erase, eq_comm]

end

/-- What registering comes to: the model is made live, it is shared as well, or another
one is given. -/
theorem register_cases (m : Manager) (key : Option String) (ref : ModelRef) :
    (key = none ∧ m.register key ref = (ref, { m with live := m.live.insert ref.id ref })) ∨
    (∃ k, key = some k ∧ m.shared? k = none ∧ m.register key ref = (ref, m.share k ref)) ∨
    ∃ k existing, key = some k ∧ m.shared? k = some existing ∧
      m.register key ref = (existing, m) := by
  cases key with
  | none => exact .inl ⟨rfl, rfl⟩
  | some k =>
    simp only [register]
    cases hshared : m.shared? k with
    | none => exact .inr (.inl ⟨k, rfl, hshared, rfl⟩)
    | some existing => exact .inr (.inr ⟨k, existing, rfl, hshared, rfl⟩)

/-- What releasing comes to: nothing happens, the model is discarded, or it is kept. -/
theorem release_cases (m : Manager) (ref : ModelRef) (force : Bool) :
    (m.live.get? ref.id = none ∧
      m.release ref force = (!m.pooledIds.contains ref.id, m)) ∨
    ((∃ held, m.live.get? ref.id = some held) ∧
      m.release ref force = (true, m.retire ref)) ∨
    ((∃ held, m.live.get? ref.id = some held) ∧ ∃ key pool, ref.systemId = some key ∧
      m.pool = some pool ∧ ref.isFragment = false ∧
      m.release ref force = (false, (m.retire ref).keep pool key ref)) := by
  unfold release Table.contains
  split
  next hlive =>
    have hheld := Option.isSome_iff_exists.1 hlive
    refine .inr ?_
    dsimp only
    split
    next key pool hkey hpool =>
      split
      next => exact .inl ⟨hheld, rfl⟩
      next hkept =>
        rw [Bool.or_eq_true, not_or] at hkept
        exact .inr ⟨hheld, key, pool, hkey, hpool, by simpa using hkept.2, rfl⟩
    next => exact .inl ⟨hheld, rfl⟩
  next hdead => exact .inl ⟨by simpa using hdead, rfl⟩

/-- A number that was given out and is not in use. -/
structure Free (m : Manager) (id : ModelId) : Prop where
  not_live : m.live.get? id = none
  not_released : m.pooledIds.get? id = none
  given : id.val < m.nextId

theorem allocate_eq_ok {m m' : Manager} {id : ModelId} (h : m.allocate = .ok (id, m')) :
    id.val = m.nextId ∧ m.nextId < m'.nextId ∧ m' = { m with nextId := m'.nextId } := by
  unfold allocate at h
  split at h
  next => simp at h
  next hmax =>
    obtain ⟨rfl, rfl⟩ : ⟨m.nextId⟩ = id ∧ { m with nextId := m.nextId + 1 } = m' := by simpa using h
    refine ⟨rfl, ?_, rfl⟩
    have hlt := m.nextId.toNat_lt
    have hne : m.nextId.toNat ≠ 2 ^ 32 - 1 := fun heq => hmax (UInt32.toNat_inj.1 (by rw [heq]; rfl))
    have hone : (1 : UInt32).toNat = 1 := rfl
    rw [UInt32.lt_iff_toNat_lt, UInt32.toNat_add]
    omega

namespace Consistent

variable {capacity : Nat} {m : Manager} {ref : ModelRef} {key : String}

theorem ofFactory (factory : Factory) (resolver : Option Resolver) (capacity : Nat) :
    (ofFactory factory resolver capacity).Consistent capacity := by
  have hreleased := released_ofFactory factory resolver capacity
  refine ⟨?_, by simp [Manager.ofFactory], ?_, by simp [hreleased], by simp [Manager.ofFactory],
    by simp [Manager.ofFactory], by simp [Manager.ofFactory]⟩
  · unfold Manager.ofFactory PoolFor
    split
    next h =>
      split at h
      next hzero => exact hzero
      next => simp at h
    next h =>
      split at h
      next => simp at h
      next hpos =>
        obtain rfl := Option.some_inj.1 h
        exact ⟨rfl, Nat.pos_of_ne_zero hpos, by simp, by simp⟩
  · rw [hreleased]
    simp [Manager.ofFactory]

section

variable (h : m.Consistent capacity)
include h

theorem asked : { m with resolverCalls := m.resolverCalls + 1 }.Consistent capacity :=
  ⟨h.pool, h.apart, h.inverse, h.document, h.shared, h.filed, h.numbered⟩

theorem allocate {id : ModelId} {m' : Manager} (hid : m.allocate = .ok (id, m')) :
    m'.Consistent capacity := by
  obtain ⟨-, hnext, heq⟩ := allocate_eq_ok hid
  rw [heq]
  exact ⟨h.pool, h.apart, h.inverse, h.document, h.shared, h.filed,
    fun id hused => UInt32.lt_trans (h.numbered id hused) hnext⟩

/-- A new model is made live. -/
theorem enliven (hfree : m.Free ref.id) :
    Consistent capacity { m with live := m.live.insert ref.id ref } := by
  refine ⟨h.pool, ?_, h.inverse, h.document, ?_, ?_, ?_⟩
  · intro id hid
    rw [Table.get?_insert] at hid
    split at hid
    next heq => exact heq ▸ hfree.not_released
    next => exact h.apart id hid
  · intro key id hcanonical
    obtain ⟨held, hheld, hkey⟩ := h.shared key id hcanonical
    refine ⟨held, ?_, hkey⟩
    rw [Table.get?_insert_other]
    · exact hheld
    · rintro rfl
      simp [hfree.not_live] at hheld
  · intro id held hheld
    rcases Table.eq_some_of_insert hheld with ⟨rfl, rfl⟩ | hheld
    · rfl
    · exact h.filed id held hheld
  · intro id hid
    rw [Table.get?_insert] at hid
    split at hid
    next heq => exact heq ▸ hfree.given
    next => exact h.numbered id hid

/-- A live model is shared for its system identifier. -/
theorem canonize (hlive : m.live.get? ref.id = some ref) (hkey : ref.systemId = some key) :
    Consistent capacity { m with canonical := m.canonical.insert key ref.id } := by
  refine ⟨h.pool, h.apart, h.inverse, h.document, ?_, h.filed, h.numbered⟩
  intro k id hcanonical
  rcases Table.eq_some_of_insert hcanonical with ⟨rfl, rfl⟩ | hcanonical
  · exact ⟨ref, hlive, hkey⟩
  · exact h.shared k id hcanonical

theorem share (hfree : m.Free ref.id) (hkey : ref.systemId = some key) :
    (m.share key ref).Consistent capacity :=
  (h.enliven hfree).canonize (Table.get?_insert_self _ _ _) hkey

theorem register {key : Option String} (hfree : m.Free ref.id)
    (hkey : ∀ k, key = some k → ref.systemId = some k) : (m.register key ref).2.Consistent capacity := by
  rcases register_cases m key ref with ⟨-, heq⟩ | ⟨k, rfl, -, heq⟩ | ⟨k, existing, -, -, heq⟩
  · rw [heq]
    exact h.enliven hfree
  · rw [heq]
    exact h.share hfree (hkey k rfl)
  · rw [heq]
    exact h

/-! ## The pool -/

theorem pool_of_some {pool : RecencyList String ModelRef} (hpool : m.pool = some pool) :
    pool.capacity = capacity ∧ pool.WellFormed := by
  have hp := h.pool
  rwa [hpool] at hp

theorem inverse_of_some {pool : RecencyList String ModelRef} (hpool : m.pool = some pool)
    {id : ModelId} : m.pooledIds.get? id = some key ↔ ∃ ref, (key, ref) ∈ pool.entries ∧ ref.id = id :=
  released_of_some hpool ▸ h.inverse id key

/-- A number is that of one released model at most. -/
theorem eq_of_id {pool : RecencyList String ModelRef} (hpool : m.pool = some pool)
    {e e' : String × ModelRef} (he : e ∈ pool.entries) (he' : e' ∈ pool.entries)
    (hid : e.2.id = e'.2.id) : e = e' := by
  have hkey := (h.inverse_of_some hpool).2 ⟨e.2, he, rfl⟩
  have hkey' := (h.inverse_of_some hpool).2 ⟨e'.2, he', rfl⟩
  rw [hid, hkey'] at hkey
  exact (h.pool_of_some hpool).2.eq_of_key he he' (Option.some_inj.1 hkey).symm

theorem not_live_of_released {pool : RecencyList String ModelRef} (hpool : m.pool = some pool)
    (href : (key, ref) ∈ pool.entries) : m.live.get? ref.id = none := by
  have hid := (h.inverse_of_some hpool).2 ⟨ref, href, rfl⟩
  by_contra hlive
  simp [h.apart _ hlive] at hid

theorem inverse_unpool {pool : RecencyList String ModelRef} (hpool : m.pool = some pool)
    (href : (key, ref) ∈ pool.entries) (id : ModelId) (k : String) :
    (m.pooledIds.erase ref.id).get? id = some k ↔ ∃ r, (k, r) ∈ pool.without key ∧ r.id = id := by
  simp only [RecencyList.mem_without]
  rw [Table.get?_erase]
  split
  next heq =>
    refine ⟨by simp, ?_⟩
    rintro ⟨r, ⟨hr, hne⟩, hrid⟩
    exact absurd (congrArg Prod.fst (h.eq_of_id hpool hr href (hrid.trans heq))) hne
  next hne =>
    rw [h.inverse_of_some hpool]
    constructor
    · rintro ⟨r, hr, hrid⟩
      refine ⟨r, ⟨hr, ?_⟩, hrid⟩
      rintro rfl
      have heq := (h.pool_of_some hpool).2.eq_of_key hr href rfl
      exact hne (hrid.symm.trans (congrArg (·.2.id) heq))
    · rintro ⟨r, ⟨hr, -⟩, hrid⟩
      exact ⟨r, hr, hrid⟩

/-- A released model is taken out of the pool. -/
theorem unpool {pool : RecencyList String ModelRef} (hpool : m.pool = some pool)
    (href : (key, ref) ∈ pool.entries) : Consistent capacity
      { m with pool := some (pool.take key).1, pooledIds := m.pooledIds.erase ref.id } := by
  have hsub : ∀ e ∈ pool.without key, e ∈ m.released := fun e he =>
    released_of_some hpool ▸ (RecencyList.mem_without.1 he).1
  have herase : ∀ id, m.pooledIds.get? id = none → (m.pooledIds.erase ref.id).get? id = none := by
    intro id hnone
    rw [Table.get?_erase, hnone, ite_self]
  refine ⟨?_, fun id hlive => herase id (h.apart id hlive), h.inverse_unpool hpool href,
    fun k r hr => h.document k r (hsub _ hr), h.shared, h.filed, fun id hused => ?_⟩
  · exact ⟨(h.pool_of_some hpool).1, (h.pool_of_some hpool).2.take key⟩
  · exact h.numbered id (hused.imp_right fun hreleased hnone => hreleased (herase id hnone))

theorem free_unpool {pool : RecencyList String ModelRef} (hpool : m.pool = some pool)
    (href : (key, ref) ∈ pool.entries) :
    Free { m with pool := some (pool.take key).1, pooledIds := m.pooledIds.erase ref.id } ref.id where
  not_live := h.not_live_of_released hpool href
  not_released := Table.get?_erase_self _ _
  given := h.numbered _ (.inr (by simp [(h.inverse_of_some hpool).2 ⟨ref, href, rfl⟩]))

theorem revive? {m' : Manager} (hrevive : m.revive? key = some (ref, m')) :
    m'.Consistent capacity := by
  obtain ⟨pool, hpool, hget, rfl⟩ := revive?_eq_some hrevive
  have href := (h.pool_of_some hpool).2.get?_eq_some_iff.1 hget
  have hkey := (h.document key ref (released_of_some hpool ▸ href)).1
  exact (h.unpool hpool href).share (h.free_unpool hpool href) hkey

/-! ## Releasing -/

/-- A live model is live no more. -/
theorem retire (hlive : m.live.get? ref.id = some ref) : (m.retire ref).Consistent capacity := by
  have hsub : ∀ id, (m.retire ref).live.get? id ≠ none → m.live.get? id ≠ none := by
    intro id hid
    rw [Manager.retire, Table.get?_erase] at hid
    split at hid
    next => exact absurd rfl hid
    next => exact hid
  refine ⟨h.pool, fun id hid => h.apart id (hsub id hid), h.inverse, h.document, ?_, ?_,
    fun id hid => h.numbered id (hid.imp_left (hsub id))⟩
  · intro key id hcanonical
    obtain ⟨hshared, hkept⟩ := retire_canonical hcanonical
    obtain ⟨held, hheld, hkey⟩ := h.shared key id hshared
    refine ⟨held, ?_, hkey⟩
    rw [Manager.retire, Table.get?_erase_other]
    · exact hheld
    · rintro rfl
      obtain rfl := Option.some_inj.1 (hheld.symm.trans hlive)
      exact hkept hkey rfl
  · intro id held hheld
    exact h.filed id held (Table.eq_some_of_erase hheld).2

theorem free_retire (hlive : m.live.get? ref.id = some ref) : (m.retire ref).Free ref.id where
  not_live := Table.get?_erase_self _ _
  not_released := h.apart _ (by simp [hlive])
  given := h.numbered _ (.inl (by simp [hlive]))

theorem not_released_of_free {pool : RecencyList String ModelRef} (hfree : m.Free ref.id)
    (hpool : m.pool = some pool) : ∀ e ∈ pool.entries, e.2.id ≠ ref.id := by
  intro e he heq
  have hkept := (h.inverse_of_some hpool).2 ⟨e.2, he, heq⟩
  simp [hfree.not_released] at hkept

theorem inverse_keep {pool : RecencyList String ModelRef} (hfree : m.Free ref.id)
    (hpool : m.pool = some pool) (id : ModelId) (k : String) :
    (m.keep pool key ref).pooledIds.get? id = some k ↔
      ∃ r, (k, r) ∈ (pool.put key ref).1.entries ∧ r.id = id := by
  have hput := (h.pool_of_some hpool).2.put_spec key ref
  have hother := h.not_released_of_free hfree hpool
  rw [get?_keep]
  simp only [hput.mem_iff]
  -- the number is that of the model pushed out, of the one kept, or of another
  split
  next hout =>
    obtain ⟨e, hout, rfl⟩ := hout
    have hmem := hput.mem_of_out e hout
    refine ⟨by simp, ?_⟩
    rintro ⟨r, heq | ⟨hr, hne⟩, hid⟩
    · obtain rfl := congrArg Prod.snd heq
      exact absurd hid.symm (hother e hmem)
    · exact absurd (hout.trans (congrArg some (h.eq_of_id hpool hmem hr hid.symm))) hne
  next hout =>
    split
    next heq =>
      constructor
      · intro hk
        exact ⟨ref, .inl (by rw [Option.some_inj.1 hk]), heq.symm⟩
      · rintro ⟨r, hr | ⟨hr, -⟩, hid⟩
        · obtain ⟨rfl, -⟩ := Prod.mk.inj hr
          rfl
        · exact absurd (hid.trans heq) (hother _ hr)
    next hne =>
      rw [h.inverse_of_some hpool]
      constructor
      · rintro ⟨r, hr, hid⟩
        exact ⟨r, .inr ⟨hr, fun heq => hout ⟨_, heq, hid⟩⟩, hid⟩
      · rintro ⟨r, hr | ⟨hr, -⟩, hid⟩
        · obtain rfl := congrArg Prod.snd hr
          exact absurd hid.symm hne
        · exact ⟨r, hr, hid⟩

/-- A document that is not live is kept in the pool. -/
theorem keep {pool : RecencyList String ModelRef} (hfree : m.Free ref.id)
    (hpool : m.pool = some pool) (hkey : ref.systemId = some key)
    (hdocument : ref.isFragment = false) : (m.keep pool key ref).Consistent capacity := by
  obtain ⟨hcapacity, hwf⟩ := h.pool_of_some hpool
  have hput := hwf.put_spec key ref
  have hreleased := released_of_some (keep_pool m pool key ref)
  refine ⟨⟨hput.capacity.trans hcapacity, hput.wellFormed⟩, ?_, ?_, ?_, h.shared, h.filed, ?_⟩
  · intro id hlive
    rw [get?_keep]
    split
    next => rfl
    next =>
      split
      next heq => exact absurd (heq ▸ hfree.not_live) hlive
      next => exact h.apart id hlive
  · rw [hreleased]
    exact h.inverse_keep hfree hpool
  · intro k r hr
    rcases (hput.mem_iff _).1 (hreleased ▸ hr) with heq | ⟨hr, -⟩
    · obtain ⟨rfl, rfl⟩ := Prod.mk.inj heq
      exact ⟨hkey, hdocument⟩
    · exact h.document k r (released_of_some hpool ▸ hr)
  · intro id hused
    rw [get?_keep] at hused
    split at hused
    next => exact h.numbered id (hused.imp_right fun hnone => absurd rfl hnone)
    next =>
      split at hused
      next heq => exact heq ▸ hfree.given
      next => exact h.numbered id hused

theorem release (hlive : ∀ held, m.live.get? ref.id = some held → held = ref) (force : Bool) :
    (m.release ref force).2.Consistent capacity := by
  rcases release_cases m ref force with ⟨-, heq⟩ | ⟨⟨held, hheld⟩, heq⟩ |
    ⟨⟨held, hheld⟩, key, pool, hkey, hpool, hdocument, heq⟩
  · rw [heq]
    exact h
  · rw [heq]
    exact h.retire (hlive held hheld ▸ hheld)
  · rw [heq]
    have hown := hlive held hheld ▸ hheld
    exact (h.retire hown).keep (h.free_retire hown) hpool hkey hdocument

/-! ## What a manager tells of released models -/

theorem not_live_of_mem_released (href : (key, ref) ∈ m.released) : m.live.get? ref.id = none := by
  obtain ⟨pool, hpool, hmem⟩ := exists_pool_of_released href
  exact h.not_live_of_released hpool hmem

theorem get?_pool_of_released (href : (key, ref) ∈ m.released) :
    ∃ pool, m.pool = some pool ∧ pool.get? key = some ref := by
  obtain ⟨pool, hpool, hmem⟩ := exists_pool_of_released href
  exact ⟨pool, hpool, (h.pool_of_some hpool).2.get?_eq_some_iff.2 hmem⟩

theorem pooled?_eq_some_iff {id : ModelId} :
    m.pooled? id = some ref ↔ (∃ key, (key, ref) ∈ m.released) ∧ ref.id = id := by
  refine ⟨mem_released_of_pooled?, ?_⟩
  rintro ⟨⟨key, href⟩, hid⟩
  obtain ⟨pool, hpool, hget⟩ := h.get?_pool_of_released href
  have hkey := (h.inverse id key).2 ⟨ref, href, hid⟩
  simp [pooled?, hkey, hpool, hget, hid]

theorem isPooled_iff {id : ModelId} : m.isPooled id = true ↔ ∃ e ∈ m.released, e.2.id = id := by
  rw [isPooled, Option.isSome_iff_exists]
  constructor
  · rintro ⟨ref, hpooled⟩
    obtain ⟨⟨key, href⟩, hid⟩ := h.pooled?_eq_some_iff.1 hpooled
    exact ⟨_, href, hid⟩
  · rintro ⟨⟨key, ref⟩, href, hid⟩
    exact ⟨ref, h.pooled?_eq_some_iff.2 ⟨⟨key, href⟩, hid⟩⟩

/-- The live or released model of a number. -/
theorem holder?_eq_some_iff {id : ModelId} : m.holder? id = some ref ↔
    (m.live.get? ref.id = some ref ∨ ∃ key, (key, ref) ∈ m.released) ∧ ref.id = id := by
  constructor
  · intro hholder
    unfold holder? at hholder
    split at hholder
    next held hlive =>
      obtain rfl := Option.some_inj.1 hholder
      obtain rfl := h.filed id held hlive
      exact ⟨.inl hlive, rfl⟩
    next => exact (h.pooled?_eq_some_iff.1 hholder).imp_left .inr
  · rintro ⟨hlive | ⟨key, href⟩, rfl⟩
    · simp only [holder?, hlive]
    · have hpooled := h.pooled?_eq_some_iff.2 ⟨⟨key, href⟩, rfl⟩
      simp only [holder?, h.not_live_of_mem_released href, hpooled]

end

end Consistent

end Grove.Manager

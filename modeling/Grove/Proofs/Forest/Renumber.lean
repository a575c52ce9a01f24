/-
The numbers of models do not matter. Two managers that differ in the numbers that they have given
out, and in nothing else (`Manager.Renumbers`), still do so after the same has been done with both.

The numbers of one manager are those of the other one by way of a function, which is fixed in
advance: the next number there is that of the next number here, and so on. That goes well as long
as numbers are left. Where one manager alone gives out a number, the function changes from the next
number on (`Manager.Renumbers.skip`).

A feed may look at the numbers of the models that it is answered with, and an implementation at the
number of the model that it is to make. What is said here is about those that do not (`Feed.Blind`,
`Factory.Blind`).
-/
import Mathlib.Data.Nat.ModEq
import Mathlib.Data.Option.Basic
import Grove.Proofs.Forest.Foreign

namespace Grove

/-! ## Other keys and values -/

namespace Table

variable {κ κ' ν ν' : Type} {g : κ → κ'} {h : ν → ν'} {t : Table κ ν} {t' : Table κ' ν'}

theorem get?_of_mem {t : Table κ ν} [DecidableEq κ] {e : κ × ν} (h : e ∈ t.entries) :
    t.get? e.1 = some e.2 := by
  rw [Table.get?, find?_of_mem t.distinct h]
  rfl

/-- A table has the entries of another one with other keys and values. -/
def Mapped (g : κ → κ') (h : ν → ν') (t : Table κ ν) (t' : Table κ' ν') : Prop :=
  t'.entries = t.entries.map (Prod.map g h)

namespace Mapped

/-- A table is that of another one also by functions that agree on its entries. -/
theorem congr {g₁ : κ → κ'} {h₁ : ν → ν'} (hmapped : Mapped g h t t')
    (hkeys : ∀ e ∈ t.entries, g₁ e.1 = g e.1) (hvalues : ∀ e ∈ t.entries, h₁ e.2 = h e.2) :
    Mapped g₁ h₁ t t' :=
  hmapped.trans (List.map_congr_left fun e he => (Prod.ext (hkeys e he) (hvalues e he)).symm)

theorem mem_keys_iff (hmapped : Mapped g h t t') (hg : Function.Injective g) {k : κ} :
    g k ∈ t'.keys ↔ k ∈ t.keys := by
  have hkeys : t'.keys = t.keys.map g := by
    rw [keys, hmapped, List.map_map, keys, List.map_map]
    rfl
  rw [hkeys, List.mem_map_of_injective hg]

variable [DecidableEq κ] [DecidableEq κ']

theorem get? (hmapped : Mapped g h t t') (hg : Function.Injective g) (k : κ) :
    t'.get? (g k) = (t.get? k).map h := by
  have hkey : (fun e : κ' × ν' => decide (e.1 = g k)) ∘ Prod.map g h = fun e => decide (e.1 = k) := by
    funext e
    simp [hg.eq_iff]
  rw [Table.get?, hmapped, List.find?_map, hkey, Table.get?, Option.map_map, Option.map_map]
  rfl

theorem insert (hmapped : Mapped g h t t') (hg : Function.Injective g) (k : κ) (v : ν) :
    Mapped g h (t.insert k v) (t'.insert (g k) (h v)) := by
  have hreplace : ∀ es : List (κ × ν), replaceIn (g k) (h v) (es.map (Prod.map g h)) =
      (replaceIn k v es).map (Prod.map g h) := by
    intro es
    induction es with
    | nil => rfl
    | cons e es ih => by_cases he : e.1 = k <;> simp [replaceIn, ih, he, hg.eq_iff]
  unfold Mapped Table.insert
  by_cases hk : k ∈ t.keys
  · rw [dif_pos hk, dif_pos ((hmapped.mem_keys_iff hg).2 hk)]
    dsimp only
    rw [hmapped, hreplace]
  · rw [dif_neg hk, dif_neg (mt (hmapped.mem_keys_iff hg).1 hk)]
    dsimp only
    rw [hmapped, List.map_append]
    rfl

theorem erase (hmapped : Mapped g h t t') (hg : Function.Injective g) (k : κ) :
    Mapped g h (t.erase k) (t'.erase (g k)) := by
  unfold Mapped Table.erase
  dsimp only
  rw [hmapped, List.filter_map]
  congr 2
  funext e
  simp [hg.eq_iff]

end Mapped

end Table

namespace RecencyList

variable {κ ν ν' : Type} {h : ν → ν'} {l : RecencyList κ ν} {l' : RecencyList κ ν'}

/-- A list has the entries of another one with other values. -/
structure Mapped (h : ν → ν') (l : RecencyList κ ν) (l' : RecencyList κ ν') : Prop where
  capacity : l'.capacity = l.capacity
  entries : l'.entries = l.entries.map (Prod.map id h)

theorem Mapped.congr {h₁ : ν → ν'} (hmapped : Mapped h l l') (hvalues : ∀ e ∈ l.entries, h₁ e.2 = h e.2) :
    Mapped h₁ l l' :=
  ⟨hmapped.capacity, hmapped.entries.trans
    (List.map_congr_left fun e he => (Prod.ext rfl (hvalues e he).symm))⟩

variable [DecidableEq κ]

theorem Mapped.get? (hmapped : Mapped h l l') (k : κ) : l'.get? k = (l.get? k).map h := by
  rw [RecencyList.get?, hmapped.entries, List.find?_map, RecencyList.get?, Option.map_map, Option.map_map]
  rfl

theorem Mapped.without (hmapped : Mapped h l l') (k : κ) :
    l'.without k = (l.without k).map (Prod.map id h) := by
  rw [RecencyList.without, hmapped.entries, List.filter_map]
  rfl

theorem Mapped.put (hmapped : Mapped h l l') (k : κ) (v : ν) :
    Mapped h (l.put k v).1 (l'.put k (h v)).1 ∧
      (l'.put k (h v)).2 = (l.put k v).2.map (Prod.map id h) := by
  have hsize : l'.size = l.size := by simp [size, hmapped.entries]
  unfold RecencyList.put
  rw [hmapped.get? k, hsize, hmapped.capacity]
  cases l.get? k with
  | some old => exact ⟨⟨rfl, by simp [hmapped.without]⟩, rfl⟩
  | none =>
    by_cases hfull : l.size < l.capacity
    · simp only [Option.map_none, if_pos hfull]
      exact ⟨⟨rfl, by simp [hmapped.entries]⟩, trivial⟩
    · simp only [Option.map_none, if_neg hfull]
      exact ⟨⟨rfl, by simp [hmapped.entries, List.map_dropLast]⟩, by rw [hmapped.entries, List.getLast?_map]⟩

theorem Mapped.take (hmapped : Mapped h l l') (k : κ) :
    Mapped h (l.take k).1 (l'.take k).1 ∧ (l'.take k).2 = (l.take k).2.map h :=
  ⟨⟨hmapped.capacity, hmapped.without k⟩, hmapped.get? k⟩

end RecencyList

/-! ## Other numbers -/

def ModelRef.renumber (ρ : ModelId → ModelId) (ref : ModelRef) : ModelRef := { ref with id := ρ ref.id }

def Model.renumber (ρ : ModelId → ModelId) (m : Model) : Model := { m with id := ρ m.id }

def Creation.renumber (ρ : ModelId → ModelId) (c : Creation) : Creation where
  outcome := c.outcome.map (ModelRef.renumber ρ)
  answers := c.answers.map (Except.map (Model.renumber ρ))

/-! ## Feeds that do not look at numbers -/

mutual

/-- One feed goes on after answers with other numbers as the other one does. -/
def Feed.Renumbered (ρ : ModelId → ModelId) : Feed → Feed → Prop
  | .finish result, other => other = .finish result
  | .report event next, other => ∃ next', other = .report event next' ∧
      ∀ answer, Feed.Renumbered ρ (next answer) (next' answer)
  | .request source unique next, other => ∃ source' next', other = .request source' unique next' ∧
      Source.Renumbered ρ source source' ∧
      ∀ answer, Feed.Renumbered ρ (next answer) (next' (answer.map (Model.renumber ρ)))
  termination_by structural feed => feed

def Source.Renumbered (ρ : ModelId → ModelId) : Source → Source → Prop
  | .make systemId none sizeHint, other => other = .make systemId none sizeHint
  | .make systemId (some feed) sizeHint, other => ∃ feed', other = .make systemId (some feed') sizeHint ∧
      Feed.Renumbered ρ feed feed'
  termination_by structural source => source

end

/-- A feed does the same whatever numbers the models have that it is answered with. -/
def Feed.Blind (feed : Feed) : Prop :=
  ∀ ρ : ModelId → ModelId, Function.Injective ρ → feed.Renumbered ρ feed

def Source.Blind (source : Source) : Prop :=
  ∀ ρ : ModelId → ModelId, Function.Injective ρ → source.Renumbered ρ source

theorem Source.Renumbered.systemId_eq {ρ : ModelId → ModelId} {source source' : Source}
    (h : source.Renumbered ρ source') : source'.systemId = source.systemId := by
  obtain ⟨systemId, feed, sizeHint⟩ := source
  cases feed with
  | none =>
    obtain rfl : source' = .make systemId none sizeHint := h
    rfl
  | some feed =>
    obtain ⟨feed', rfl, -⟩ := h
    rfl

theorem Feed.blind_ofEventsThen (last : Except TreeError Unit) (events : List BuildEvent) :
    (Feed.ofEventsThen last events).Blind := by
  intro ρ _
  induction events with
  | nil => rfl
  | cons event events ih => exact ⟨_, rfl, fun answer => by cases answer <;> [rfl; exact ih]⟩

theorem Feed.Blind.source {feed : Feed} (h : feed.Blind) (systemId : Option String) (sizeHint : Option Nat) :
    (Source.make systemId (some feed) sizeHint).Blind :=
  fun ρ hρ => ⟨feed, rfl, h ρ hρ⟩

/-- What a resolver supplies does not look at numbers. -/
def Resolver.Blind (resolver : Resolver) : Prop :=
  ∀ key feed, resolver key = .ok (some feed) → feed.Blind

/-! ## Implementations that do not look at numbers -/

/-- An implementation fails alike for whatever numbers. -/
structure Factory.Blind (factory : Factory) : Prop where
  refusal : ∀ {ρ : ModelId → ModelId} {source source' : Source} {feed feed' : Feed},
    Function.Injective ρ → source.Renumbered ρ source' → feed.Renumbered ρ feed' →
      ∀ id, factory.refusal (ρ id) source' feed' = factory.refusal id source feed
  rejection : ∀ {ρ : ModelId → ModelId} {source source' : Source} {feed feed' : Feed},
    Function.Injective ρ → source.Renumbered ρ source' → feed.Renumbered ρ feed' →
      ∀ built, factory.rejection source' feed' (built.map (Model.renumber ρ)) =
        factory.rejection source feed built
  fragmentRefusal : ∀ {ρ : ModelId → ModelId}, Function.Injective ρ →
    ∀ id, factory.fragmentRefusal (ρ id) = factory.fragmentRefusal id

theorem Factory.Blind.verdict {factory : Factory} (h : factory.Blind) {ρ : ModelId → ModelId}
    (hρ : Function.Injective ρ) {source source' : Source} {feed feed' : Feed}
    (hsource : source.Renumbered ρ source') (hfeed : feed.Renumbered ρ feed')
    (built : Except TreeError Model) : factory.verdict source' feed' (built.map (Model.renumber ρ)) =
      (factory.verdict source feed built).map (Model.renumber ρ) := by
  rw [Factory.verdict, h.rejection hρ hsource hfeed, Factory.verdict]
  cases factory.rejection source feed built <;> rfl

/-! ## Numbers that are skipped -/

namespace ModelId

variable {next next' : UInt32} {id id' : ModelId}

/-- Moves the next number to a later one and those that follow with it; numbers before it stay.
Those for which there is no room at the end come round. -/
def skip (next next' : UInt32) (id : ModelId) : ModelId :=
  if id.val < next then id
  else ⟨.ofNat (next.toNat +
    (id.val.toNat - next.toNat + (next'.toNat - next.toNat)) % (2 ^ 32 - next.toNat))⟩

theorem skip_of_lt (h : id.val < next) : skip next next' id = id := if_pos h

theorem toNat_skip (h : ¬id.val < next) : (skip next next' id).val.toNat = next.toNat +
    (id.val.toNat - next.toNat + (next'.toNat - next.toNat)) % (2 ^ 32 - next.toNat) := by
  have hlt := next.toNat_lt
  have hmod := Nat.mod_lt (id.val.toNat - next.toNat + (next'.toNat - next.toNat))
    (Nat.sub_pos_of_lt hlt)
  rw [skip, if_neg h, UInt32.toNat_ofNat_of_lt' (show _ < 2 ^ 32 by omega)]

theorem skip_injective (next next' : UInt32) : Function.Injective (skip next next') := by
  intro id id' heq
  have hval : (skip next next' id).val.toNat = (skip next next' id').val.toNat := by rw [heq]
  by_cases hid : id.val < next <;> by_cases hid' : id'.val < next
  · rwa [skip_of_lt hid, skip_of_lt hid'] at heq
  · rw [skip_of_lt hid, toNat_skip hid'] at hval
    rw [UInt32.lt_iff_toNat_lt] at hid
    omega
  · rw [skip_of_lt hid', toNat_skip hid] at hval
    rw [UInt32.lt_iff_toNat_lt] at hid'
    omega
  · rw [toNat_skip hid, toNat_skip hid', Nat.add_left_cancel_iff] at hval
    -- the remainders agree, and what is moved is less than the modulus
    have hmoved := Nat.ModEq.add_right_cancel' _ hval
    rw [UInt32.lt_iff_toNat_lt, Nat.not_lt] at hid hid'
    have hlt := id.val.toNat_lt
    have hlt' := id'.val.toNat_lt
    have hsame := hmoved.eq_of_lt_of_lt (by omega) (by omega)
    obtain ⟨val⟩ := id
    obtain ⟨val'⟩ := id'
    exact congrArg ModelId.mk (UInt32.toNat_inj.1 (by dsimp only at *; omega))

theorem skip_add (hle : next.toNat ≤ next'.toNat) {i : Nat} (hi : next'.toNat + i < 2 ^ 32) :
    skip next next' ⟨.ofNat (next.toNat + i)⟩ = ⟨.ofNat (next'.toNat + i)⟩ := by
  have hval : (UInt32.ofNat (next.toNat + i)).toNat = next.toNat + i :=
    UInt32.toNat_ofNat_of_lt' (show _ < 2 ^ 32 by omega)
  have hnot : ¬UInt32.ofNat (next.toNat + i) < next := by
    rw [UInt32.lt_iff_toNat_lt, hval]
    omega
  rw [skip, if_neg hnot, hval, Nat.mod_eq_of_lt (by omega)]
  congr 2
  omega

end ModelId

/-! ## Managers -/

namespace Manager

/-- Numbers of models are left. -/
def HasRoom (m : Manager) : Prop := m.nextId ≠ UInt32.ofNat (Nat.pow 2 32 - 1)

/-- Two managers differ in the numbers of models, and in how often the resolver was asked. Neither
their implementation nor the feeds that the resolver supplies look at numbers. The numbers of the
models to come are those that follow. -/
structure Renumbers (ρ : ModelId → ModelId) (m m' : Manager) : Prop where
  factory : m'.factory = m.factory
  impartial : m.factory.Blind
  resolver : m'.resolver = m.resolver
  blind : ∀ resolver, m.resolver = some resolver → Resolver.Blind resolver
  live : m.live.Mapped ρ (ModelRef.renumber ρ) m'.live
  canonical : m.canonical.Mapped id ρ m'.canonical
  pool : Option.Rel (RecencyList.Mapped (ModelRef.renumber ρ)) m.pool m'.pool
  pooledIds : m.pooledIds.Mapped ρ id m'.pooledIds
  later : m.nextId.toNat ≤ m'.nextId.toNat
  next : ∀ i, m'.nextId.toNat + i < 2 ^ 32 →
    ρ ⟨.ofNat (m.nextId.toNat + i)⟩ = ⟨.ofNat (m'.nextId.toNat + i)⟩

variable {ρ : ModelId → ModelId} {m m' m₁ : Manager} {key : String} {ref : ModelRef}

theorem toNat_nextId_add_one (h : m.HasRoom) : (m.nextId + 1).toNat = m.nextId.toNat + 1 := by
  have hlt := m.nextId.toNat_lt
  have hmax : m.nextId.toNat ≠ 2 ^ 32 - 1 := fun heq => h (UInt32.toNat_inj.1 (by rw [heq]; rfl))
  have hone : (1 : UInt32).toNat = 1 := rfl
  rw [UInt32.toNat_add]
  omega

theorem release_of_dead {force : Bool} (h : ¬m.live.contains ref.id = true) :
    m.release ref force = (!m.pooledIds.contains ref.id, m) :=
  if_neg h

/-- The list in which a live model is kept when it is released, and its system identifier. -/
def shelfFor? (m : Manager) (ref : ModelRef) (force : Bool) : Option (String × RecencyList String ModelRef) :=
  if force || ref.isFragment then none
  else
    match ref.systemId, m.pool with
    | some key, some pool => some (key, pool)
    | _, _ => none

theorem release_of_live {force : Bool} (h : m.live.contains ref.id = true) :
    m.release ref force = match m.shelfFor? ref force with
      | some (key, pool) => (false, (m.retire ref).keep pool key ref)
      | none => (true, m.retire ref) := by
  rw [release, if_pos h, shelfFor?]
  cases hkey : ref.systemId with
  | none => simp
  | some key =>
    cases hpool : m.pool with
    | none => simp [Manager.retire, hpool]
    | some pool => by_cases hdiscard : (force || ref.isFragment) = true <;> simp [hdiscard, hpool, Manager.retire]

@[simp] theorem renumber_id : ModelRef.renumber id = id := rfl

namespace Renumbers

theorem refl (himpartial : m.factory.Blind)
    (hblind : ∀ resolver, m.resolver = some resolver → Resolver.Blind resolver) : Renumbers id m m where
  factory := rfl
  impartial := himpartial
  resolver := rfl
  blind := hblind
  live := by simp [Table.Mapped]
  canonical := by simp [Table.Mapped]
  pool := by
    cases m.pool with
    | none => exact .none
    | some pool => exact .some ⟨rfl, by simp⟩
  pooledIds := by simp [Table.Mapped]
  later := Nat.le_refl _
  next _ _ := rfl

theorem asked (h : Renumbers ρ m m') : Renumbers ρ { m with resolverCalls := m.resolverCalls + 1 }
    { m' with resolverCalls := m'.resolverCalls + 1 } :=
  { h with }

/-- As long as numbers are left there, they are left here. -/
theorem hasRoom (h : Renumbers ρ m m') (hroom : m'.HasRoom) : m.HasRoom := by
  intro hmax
  have hlater := h.later
  have hlt := m'.nextId.toNat_lt
  have hfull : m.nextId.toNat = 2 ^ 32 - 1 := by rw [hmax]; rfl
  exact hroom (UInt32.toNat_inj.1 (by rw [← hmax]; omega))

/-- The next numbers belong to each other. -/
theorem allocate (h : Renumbers ρ m m') (hroom : m'.HasRoom) : ∃ id m₁ m₁',
    m.allocate = .ok (id, m₁) ∧ m'.allocate = .ok (ρ id, m₁') ∧ Renumbers ρ m₁ m₁' := by
  have hfirst := h.next 0 m'.nextId.toNat_lt
  simp only [Nat.add_zero, UInt32.ofNat_toNat] at hfirst
  have hsucc := toNat_nextId_add_one (h.hasRoom hroom)
  have hsucc' := toNat_nextId_add_one hroom
  refine ⟨⟨m.nextId⟩, { m with nextId := m.nextId + 1 }, { m' with nextId := m'.nextId + 1 },
    if_neg (h.hasRoom hroom), ?_, { h with later := ?_, next := fun i hi => ?_ }⟩
  · rw [hfirst]
    exact if_neg hroom
  · simpa only [hsucc, hsucc', Nat.add_le_add_iff_right] using h.later
  · simp only [hsucc, hsucc', Nat.add_right_comm _ 1 i] at hi ⊢
    exact h.next (i + 1) hi

theorem shelfFor? (h : Renumbers ρ m m') (ref : ModelRef) (force : Bool) :
    (m.shelfFor? ref force = none ∧ m'.shelfFor? (ref.renumber ρ) force = none) ∨
      ∃ key pool pool', m.shelfFor? ref force = some (key, pool) ∧
        m'.shelfFor? (ref.renumber ρ) force = some (key, pool') ∧
        RecencyList.Mapped (ModelRef.renumber ρ) pool pool' := by
  have hpool := h.pool
  have hkey : (ref.renumber ρ).systemId = ref.systemId := rfl
  have hfragment : (ref.renumber ρ).isFragment = ref.isFragment := rfl
  unfold Manager.shelfFor?
  rw [hkey, hfragment]
  by_cases hdiscard : (force || ref.isFragment) = true
  · exact .inl ⟨if_pos hdiscard, if_pos hdiscard⟩
  rw [if_neg hdiscard, if_neg hdiscard]
  cases ref.systemId with
  | none => exact .inl ⟨rfl, rfl⟩
  | some key =>
    generalize m.pool = left at hpool ⊢
    generalize m'.pool = right at hpool ⊢
    cases hpool with
    | none => exact .inl ⟨rfl, rfl⟩
    | some hmapped => exact .inr ⟨key, _, _, rfl, rfl, hmapped⟩

variable (hρ : Function.Injective ρ)
include hρ

theorem shared? (h : Renumbers ρ m m') (key : String) :
    m'.shared? key = (m.shared? key).map (ModelRef.renumber ρ) := by
  have hcanonical := h.canonical.get? Function.injective_id key
  rw [id_eq] at hcanonical
  unfold Manager.shared?
  rw [hcanonical]
  cases m.canonical.get? key with
  | none => rfl
  | some id => exact h.live.get? hρ id

theorem share (h : Renumbers ρ m m') (key : String) (ref : ModelRef) :
    Renumbers ρ (m.share key ref) (m'.share key (ref.renumber ρ)) :=
  { h with
    live := h.live.insert hρ ref.id ref
    canonical := h.canonical.insert Function.injective_id key ref.id }

theorem revive? (h : Renumbers ρ m m') (key : String) :
    (m.revive? key = none ∧ m'.revive? key = none) ∨ ∃ ref m₁ m₁', m.revive? key = some (ref, m₁) ∧
      m'.revive? key = some (ref.renumber ρ, m₁') ∧ Renumbers ρ m₁ m₁' := by
  have hpool := h.pool
  unfold Manager.revive?
  generalize m.pool = left at hpool ⊢
  generalize m'.pool = right at hpool ⊢
  cases hpool with
  | none => exact .inl ⟨rfl, rfl⟩
  | @some pool pool' hmapped =>
    obtain ⟨hrest, htaken⟩ := hmapped.take key
    cases hget : (pool.take key).2 with
    | none =>
      rw [hget] at htaken
      exact .inl ⟨by simp [hget], by simp [htaken]⟩
    | some ref =>
      rw [hget] at htaken
      have hunpooled : Renumbers ρ
          { m with pool := some (pool.take key).1, pooledIds := m.pooledIds.erase ref.id }
          { m' with pool := some (pool'.take key).1, pooledIds := m'.pooledIds.erase (ρ ref.id) } :=
        { h with pool := .some hrest, pooledIds := h.pooledIds.erase hρ ref.id }
      exact .inr ⟨ref, _, _, by simp [hget], by simp [htaken]; rfl, hunpooled.share hρ key ref⟩

theorem register (h : Renumbers ρ m m') (key : Option String) (ref : ModelRef) :
    (m'.register key (ref.renumber ρ)).1 = (m.register key ref).1.renumber ρ ∧
      Renumbers ρ (m.register key ref).2 (m'.register key (ref.renumber ρ)).2 := by
  cases key with
  | none => exact ⟨rfl, { h with live := h.live.insert hρ ref.id ref }⟩
  | some key =>
    simp only [Manager.register, h.shared? hρ key]
    cases m.shared? key with
    | none => exact ⟨rfl, h.share hρ key ref⟩
    | some existing => exact ⟨rfl, h⟩

theorem retire (h : Renumbers ρ m m') (ref : ModelRef) :
    Renumbers ρ (m.retire ref) (m'.retire (ref.renumber ρ)) := by
  have hlive := h.live.erase hρ ref.id
  have hcanonical : (m.retire ref).canonical.Mapped id ρ (m'.retire (ref.renumber ρ)).canonical := by
    have hget : ∀ key, m'.canonical.get? key = (m.canonical.get? key).map ρ :=
      h.canonical.get? Function.injective_id
    unfold Manager.retire
    dsimp only [ModelRef.renumber]
    cases ref.systemId with
    | none => exact h.canonical
    | some key =>
      have hsame : m'.canonical.get? key = some (ρ ref.id) ↔ m.canonical.get? key = some ref.id := by
        rw [hget, Option.map_eq_some_iff]
        simp [hρ.eq_iff]
      simp only [hsame]
      split
      · exact h.canonical.erase Function.injective_id key
      · exact h.canonical
  exact { h with live := hlive, canonical := hcanonical }

theorem keep (h : Renumbers ρ m m') {pool pool' : RecencyList String ModelRef}
    (hpool : RecencyList.Mapped (ModelRef.renumber ρ) pool pool') (key : String) (ref : ModelRef) :
    Renumbers ρ (m.keep pool key ref) (m'.keep pool' key (ref.renumber ρ)) := by
  obtain ⟨hput, hout⟩ := hpool.put key ref
  have hids : (m.keep pool key ref).pooledIds.Mapped ρ id (m'.keep pool' key (ref.renumber ρ)).pooledIds := by
    have hinserted := h.pooledIds.insert hρ ref.id key
    unfold Manager.keep
    dsimp only
    rw [hout]
    cases (pool.put key ref).2 with
    | none => exact hinserted
    | some out => exact hinserted.erase hρ out.2.id
  exact { h with pool := .some hput, pooledIds := hids }

theorem release (h : Renumbers ρ m m') (ref : ModelRef) (force : Bool) :
    (m'.release (ref.renumber ρ) force).1 = (m.release ref force).1 ∧
      Renumbers ρ (m.release ref force).2 (m'.release (ref.renumber ρ) force).2 := by
  have hlive : m'.live.contains (ref.renumber ρ).id = m.live.contains ref.id := by
    simp [Table.contains, ModelRef.renumber, h.live.get? hρ]
  have hpooled : m'.pooledIds.contains (ref.renumber ρ).id = m.pooledIds.contains ref.id := by
    simp [Table.contains, ModelRef.renumber, h.pooledIds.get? hρ]
  have hretired := h.retire hρ ref
  by_cases hcontains : m.live.contains ref.id = true
  · rw [release_of_live hcontains, release_of_live (hlive.trans hcontains)]
    rcases h.shelfFor? ref force with ⟨hnone, hnone'⟩ | ⟨key, pool, pool', hsome, hsome', hpool⟩
    · rw [hnone, hnone']
      exact ⟨rfl, hretired⟩
    · rw [hsome, hsome']
      exact ⟨rfl, hretired.keep hρ hpool key ref⟩
  · rw [release_of_dead hcontains, release_of_dead (hlive ▸ hcontains), hpooled]
    exact ⟨rfl, h⟩

end Renumbers

namespace Consistent

variable {capacity : Nat} (hcons : m.Consistent capacity)
include hcons

theorem lt_of_live {e : ModelId × ModelRef} (he : e ∈ m.live.entries) :
    e.1.val < m.nextId ∧ e.2.id = e.1 := by
  have hget := Table.get?_of_mem he
  exact ⟨hcons.numbered _ (.inl (by simp [hget])), hcons.filed _ _ hget⟩

theorem lt_of_canonical {e : String × ModelId} (he : e ∈ m.canonical.entries) : e.2.val < m.nextId := by
  obtain ⟨ref, hlive, -⟩ := hcons.shared _ _ (Table.get?_of_mem he)
  exact hcons.numbered _ (.inl (by simp [hlive]))

theorem lt_of_pooled {e : ModelId × String} (he : e ∈ m.pooledIds.entries) : e.1.val < m.nextId :=
  hcons.numbered _ (.inr (by simp [Table.get?_of_mem he]))

theorem lt_of_released {e : String × ModelRef} (he : e ∈ m.released) : e.2.id.val < m.nextId := by
  have hkey := (hcons.inverse e.2.id e.1).2 ⟨e.2, he, rfl⟩
  exact hcons.numbered _ (.inr (by simp [hkey]))

end Consistent

namespace Renumbers

theorem released (h : Renumbers ρ m m') :
    m'.released = m.released.map (Prod.map id (ModelRef.renumber ρ)) := by
  have hpool := h.pool
  unfold Manager.released
  generalize m.pool = left at hpool ⊢
  generalize m'.pool = right at hpool ⊢
  cases hpool with
  | none => rfl
  | some hmapped => exact hmapped.entries

theorem pool_congr {ρ' : ModelId → ModelId} (h : Renumbers ρ m m')
    (hsame : ∀ e ∈ m.released, e.2.renumber ρ' = e.2.renumber ρ) :
    Option.Rel (RecencyList.Mapped (ModelRef.renumber ρ')) m.pool m'.pool := by
  have hpool := h.pool
  unfold Manager.released at hsame
  generalize m.pool = left at hpool hsame ⊢
  generalize m'.pool = right at hpool ⊢
  cases hpool with
  | none => exact .none
  | some hmapped => exact .some (hmapped.congr hsame)

/-- Numbers are given out on one side, or the resolver is asked, and nothing else happens. -/
theorem skip (h : Renumbers ρ m m') {capacity : Nat} (hcons : m'.Consistent capacity) {next : UInt32}
    (hle : m'.nextId.toNat ≤ next.toNat) (calls : Nat) : Renumbers (ModelId.skip m'.nextId next ∘ ρ) m
      { m' with nextId := next, resolverCalls := calls } := by
  -- the tables hold numbers below the next one only, where the function is what it was
  have hid : ∀ id : ModelId, (ρ id).val < m'.nextId → (ModelId.skip m'.nextId next ∘ ρ) id = ρ id :=
    fun _ => ModelId.skip_of_lt
  have href : ∀ ref : ModelRef, (ρ ref.id).val < m'.nextId →
      ref.renumber (ModelId.skip m'.nextId next ∘ ρ) = ref.renumber ρ := fun ref hlt =>
    congrArg (fun id => { ref with id }) (hid ref.id hlt)
  have hlive : ∀ e ∈ m.live.entries, (ρ e.1).val < m'.nextId ∧ ρ e.2.id = ρ e.1 := fun e he =>
    hcons.lt_of_live (e := Prod.map ρ (ModelRef.renumber ρ) e) (h.live ▸ List.mem_map_of_mem he)
  have hcanonical : ∀ e ∈ m.canonical.entries, (ρ e.2).val < m'.nextId := fun e he =>
    hcons.lt_of_canonical (e := Prod.map id ρ e) (h.canonical ▸ List.mem_map_of_mem he)
  have hpooled : ∀ e ∈ m.pooledIds.entries, (ρ e.1).val < m'.nextId := fun e he =>
    hcons.lt_of_pooled (e := Prod.map ρ id e) (h.pooledIds ▸ List.mem_map_of_mem he)
  have hreleased : ∀ e ∈ m.released, (ρ e.2.id).val < m'.nextId := fun e he =>
    hcons.lt_of_released (e := Prod.map id (ModelRef.renumber ρ) e) (h.released ▸ List.mem_map_of_mem he)
  exact {
    factory := h.factory
    impartial := h.impartial
    resolver := h.resolver
    blind := h.blind
    live := h.live.congr (fun e he => hid _ (hlive e he).1) fun e he =>
      href e.2 ((hlive e he).2 ▸ (hlive e he).1)
    canonical := h.canonical.congr (fun _ _ => rfl) fun e he => hid _ (hcanonical e he)
    pool := h.pool_congr fun e he => href e.2 (hreleased e he)
    pooledIds := h.pooledIds.congr (fun e he => hid _ (hpooled e he)) fun _ _ => rfl
    later := Nat.le_trans h.later hle
    next := fun i hi => by
      rw [Function.comp_apply, h.next i (by dsimp only at hi; omega)]
      exact ModelId.skip_add hle hi }

end Renumbers

end Manager

end Grove

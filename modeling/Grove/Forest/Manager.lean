/-
Managers. A manager numbers the models it makes, knows which of them are live,
hands out one shared model per system identifier, and keeps released models in
a pool from which they can come back.

Everything here is about references; the trees themselves are in the forest.
-/
import Grove.Forest.Factory
import Grove.Forest.Recency

namespace Grove

/-- A reference to a model: its place in the forest and what never changes about
it. -/
structure ModelRef where
  place : Nat
  id : ModelId
  systemId : Option String
  isFragment : Bool
  deriving DecidableEq, Repr

/-- The state of a manager. -/
structure Manager where
  factory : Factory
  resolver : Option Resolver := none
  /-- The number of the next model. -/
  nextId : UInt32 := 0
  live : Table ModelId ModelRef := .empty
  /-- The live model that is shared for a system identifier. -/
  canonical : Table String ModelId := .empty
  /-- The released models by system identifier, the last released first. -/
  pool : Option (RecencyList String ModelRef) := none
  /-- Under which system identifier a released model is kept. -/
  pooledIds : Table ModelId String := .empty
  /-- How often the resolver has been asked. -/
  resolverCalls : Nat := 0

namespace Manager

/-- A manager that uses the given implementation. -/
def ofFactory (factory : Factory) (resolver : Option Resolver) (poolCapacity : Nat) : Manager :=
  { factory, resolver, pool := if poolCapacity = 0 then none else some { capacity := poolCapacity } }

/-- A manager as configured. -/
def ofConfig (c : ManagerConfig) : Except TreeError Manager :=
  (c.selector.resolve c.registry).map fun f => ofFactory f c.resolver c.poolCapacity

/-- A manager with the default implementation and pool. -/
def standard : Manager := ofFactory .default none defaultPoolCapacity

def liveCount (m : Manager) : Nat := m.live.size

def pooledCount (m : Manager) : Nat := (m.pool.map (·.size)).getD 0

/-- How many models the implementation was asked to make. A number is given out
just before, so it is the number of numbers given out. -/
def madeCount (m : Manager) : Nat := m.nextId.toNat

/-- The released model with a number. -/
def pooled? (m : Manager) (id : ModelId) : Option ModelRef := do
  let key ← m.pooledIds.get? id
  let pool ← m.pool
  (pool.get? key).filter (·.id = id)

def isPooled (m : Manager) (id : ModelId) : Bool := (m.pooled? id).isSome

/-- The live or released model with a number. -/
def holder? (m : Manager) (id : ModelId) : Option ModelRef :=
  match m.live.get? id with
  | some ref => some ref
  | none => m.pooled? id

/-- The live model that is shared for a system identifier. -/
def shared? (m : Manager) (key : String) : Option ModelRef :=
  (m.canonical.get? key).bind m.live.get?

/-- Makes a model live and shares it. -/
def share (m : Manager) (key : String) (ref : ModelRef) : Manager :=
  { m with live := m.live.insert ref.id ref, canonical := m.canonical.insert key ref.id }

/-- Brings the released model of a system identifier back and shares it. -/
def revive? (m : Manager) (key : String) : Option (ModelRef × Manager) := do
  let pool ← m.pool
  let (rest, taken) := pool.take key
  let ref ← taken
  some (ref, { m with pool := some rest, pooledIds := m.pooledIds.erase ref.id }.share key ref)

/-- Gives out the next number. -/
def allocate (m : Manager) : Except TreeError (ModelId × Manager) :=
  if m.nextId = UInt32.ofNat (Nat.pow 2 32 - 1) then
    .error (.configuration "tree model id space exhausted")
  else .ok (⟨m.nextId⟩, { m with nextId := m.nextId + 1 })

/-- Makes a new model live. For a shared request the model becomes the shared
one, unless another has become so in the meantime: then that one is given out
and the new model is dropped. -/
def register (m : Manager) (key : Option String) (ref : ModelRef) : ModelRef × Manager :=
  match key with
  | none => (ref, { m with live := m.live.insert ref.id ref })
  | some k =>
    match m.shared? k with
    | some existing => (existing, m)
    | none => (ref, m.share k ref)

/-- Puts a released model into the pool. What it pushes out is discarded. -/
def keep (m : Manager) (pool : RecencyList String ModelRef) (key : String) (ref : ModelRef) :
    Manager :=
  let (pool, displaced) := pool.put key ref
  let pooledIds := m.pooledIds.insert ref.id key
  { m with
    pool := some pool
    pooledIds := match displaced with
      | some (_, out) => pooledIds.erase out.id
      | none => pooledIds }

/-- Takes a model from the live ones, and from the shared ones if it is the one
shared for its system identifier. -/
def retire (m : Manager) (ref : ModelRef) : Manager :=
  { m with
    live := m.live.erase ref.id
    canonical := match ref.systemId with
      | some key => if m.canonical.get? key = some ref.id then m.canonical.erase key else m.canonical
      | none => m.canonical }

/-- Releases a model and tells whether it was discarded. A document with a system
identifier is kept in the pool unless `force` is set. -/
def release (m : Manager) (ref : ModelRef) (force : Bool) : Bool × Manager :=
  if m.live.contains ref.id then
    let m := m.retire ref
    match ref.systemId, m.pool with
    | some key, some pool =>
      if force || ref.isFragment then (true, m) else (false, m.keep pool key ref)
    | _, _ => (true, m)
  else (!m.pooledIds.contains ref.id, m)

def summary (m : Manager) : String :=
  Text.summary "TreeModelManager"
    [("factory", Text.quote m.factory.name), ("live", Nat.repr m.liveCount),
      ("pooled", Nat.repr m.pooledCount)] false

end Manager

end Grove

/-
A forest after any operations on one of its managers (`Forest.Reachable`). Models are
released only if they were issued, which is to say live when an operation was over: within a
request nothing is released, so what was given out on the way is live when it is over. The
tables of the manager agree throughout (`Reachable.manager_consistent`).
-/
import Grove.Proofs.Forest.Chronicle

namespace Grove

open Manager (Event)

namespace Forest

variable {m : Manager} {r : ManagerRef} {f f' : Forest} {log more : List Event}

/-- The models of a manager that are live. -/
def liveModels (f : Forest) (r : ManagerRef) : List ModelRef :=
  ((f.manager? r).map (·.live.values)).getD []

/-- A forest after any operations on one of its managers, or in the middle of one, and the
models that the manager issued: those that are live when an operation is over. All that
requests gave out on the way is among them (`Manager.History.live_of_given`). -/
inductive Reachable (r : ManagerRef) (config : ManagerConfig) : List ModelRef → Forest → Prop
  | start {f : Forest} {m₀ : Manager} :
      Manager.ofConfig config = .ok m₀ → f.manager? r = some m₀ → Reachable r config [] f
  | create {issued : List ModelRef} {f : Forest} (source : Source) (unique : Bool) :
      Reachable r config issued f → Reachable r config ((f.create r source unique).2.liveModels r ++ issued)
        (f.create r source unique).2
  | createFragment {issued : List ModelRef} {f : Forest} :
      Reachable r config issued f → Reachable r config ((f.createFragment r).2.liveModels r ++ issued)
        (f.createFragment r).2
  /-- A request has taken a number, and this much of a feed has run for it. -/
  | during {issued : List ModelRef} {f : Forest} {m m' : Manager} {id : ModelId} (depth : Nat)
      (feed : Feed) (builder : Builder) :
      Reachable r config issued f → f.manager? r = some m → m.allocate = .ok (id, m') →
      Reachable r config
        ((Feed.run r depth feed { forest := f.setManager r m', builder }).2.forest.liveModels r ++ issued)
        (Feed.run r depth feed { forest := f.setManager r m', builder }).2.forest
  | release {issued : List ModelRef} {f : Forest} {ref : ModelRef} (force : Bool) :
      Reachable r config issued f → ref ∈ issued → Reachable r config issued (f.release r ref force).2
  /-- Owners are looked up, trees are extended, and other managers do what they do. -/
  | aside {issued : List ModelRef} {f f' : Forest} :
      Reachable r config issued f → f'.manager? r = f.manager? r → Reachable r config issued f'

namespace Reachable

variable {config : ManagerConfig} {issued : List ModelRef}

theorem issued_of_logged {factory : Factory} {resolver : Option Resolver} {capacity : Nat}
    (hlog : f.Logged (Manager.ofFactory factory resolver capacity) r (more ++ log))
    (hissued : ∀ ref ∈ issued, ∃ e ∈ log, e.given? = some ref) :
    ∀ ref ∈ f.liveModels r ++ issued, ∃ e ∈ more ++ log, e.given? = some ref := by
  intro ref href
  rcases List.mem_append.1 href with hlive | hold
  · obtain ⟨m, hm, hhistory⟩ := hlog
    simp only [liveModels, hm, Option.map_some, Option.getD_some] at hlive
    obtain ⟨id, hget⟩ := Table.get?_of_mem_values hlive
    obtain ⟨key, hmem⟩ := hhistory.sound.2.live id ref hget
    exact ⟨_, hmem, rfl⟩
  · obtain ⟨e, he, hgiven⟩ := hissued ref hold
    exact ⟨e, List.mem_append_right _ he, hgiven⟩

/-- Only events happen to a manager, and models are issued in them. -/
theorem logged (h : Reachable r config issued f) : ∃ factory log,
    f.Logged (Manager.ofFactory factory config.resolver config.poolCapacity) r log ∧
    ∀ ref ∈ issued, ∃ e ∈ log, e.given? = some ref := by
  induction h with
  | start hconfig hm =>
    obtain ⟨factory, rfl⟩ := Manager.ofConfig_eq_ok hconfig
    exact ⟨factory, [], ⟨_, hm, .start⟩, by simp⟩
  | create source unique _ ih =>
    obtain ⟨factory, log, hlog, hissued⟩ := ih
    have hlog' := (hlog.create source unique).1.logged
    exact ⟨factory, _, hlog', issued_of_logged hlog' hissued⟩
  | createFragment _ ih =>
    obtain ⟨factory, log, hlog, hissued⟩ := ih
    have hlog' := hlog.createFragment.1.logged
    exact ⟨factory, _, hlog', issued_of_logged hlog' hissued⟩
  | during depth feed builder _ hm hid ih =>
    obtain ⟨factory, log, hlog, hissued⟩ := ih
    have hnumbered := hlog.step hm (.numbered hid) trivial
    have hlog' := (Feed.tells_tale depth feed { forest := _, builder } _ hnumbered).logged
    rw [List.append_cons] at hlog'
    exact ⟨factory, _, hlog', issued_of_logged hlog' hissued⟩
  | release force _ href ih =>
    obtain ⟨factory, log, hlog, hissued⟩ := ih
    refine ⟨factory, _, hlog.release (hissued _ href) force, fun ref href => ?_⟩
    obtain ⟨e, he, hgiven⟩ := hissued ref href
    exact ⟨e, List.mem_cons_of_mem _ he, hgiven⟩
  | aside _ hsame ih =>
    obtain ⟨factory, log, ⟨m, hm, hhistory⟩, hissued⟩ := ih
    exact ⟨factory, log, ⟨m, hsame.trans hm, hhistory⟩, hissued⟩

/-- The tables of a manager agree after any operations. -/
theorem manager_consistent (h : Reachable r config issued f) :
    ∃ m, f.manager? r = some m ∧ m.Consistent config.poolCapacity := by
  obtain ⟨factory, log, ⟨m, hm, hhistory⟩, -⟩ := h.logged
  exact ⟨m, hm, hhistory.sound.1⟩

/-- A source whose feed asks for the shared model of the same system identifier. -/
def selfishSource : Source :=
  .make (some "k") (some (.requestFirst (.make (some "k") (some .nothing) none) false .nothing)) none

/-- With room for one released model, a shared model and one of its own are made for the
same system identifier. -/
def twins : Forest :=
  let f : Forest := { managers := #[.ofFactory .default none 1] }
  ((f.create ⟨0⟩ selfishSource false).2.create ⟨0⟩ (.make (some "k") (some .nothing) none) true).2

/-- The twins are released one after the other. -/
theorem manager_consistent_displaced : ∃ issued f m, Reachable ⟨0⟩ { poolCapacity := 1 } issued f ∧
    f.manager? ⟨0⟩ = some m ∧ m.Consistent 1 ∧ m.nextId = 3 ∧ m.live.entries = [] ∧
    m.pooledIds.entries = [(⟨2⟩, "k")] := by
  have hstart : Reachable ⟨0⟩ { poolCapacity := 1 } [] { managers := #[.ofFactory .default none 1] } :=
    .start rfl rfl
  obtain ⟨issued, htwins, hissued⟩ : ∃ issued, Reachable ⟨0⟩ { poolCapacity := 1 } issued twins ∧
      issued = [⟨0, ⟨1⟩, some "k", false⟩, ⟨2, ⟨2⟩, some "k", false⟩, ⟨0, ⟨1⟩, some "k", false⟩] :=
    ⟨_, (hstart.create selfishSource false).create (.make (some "k") (some .nothing) none) true, rfl⟩
  subst hissued
  have hone := htwins.release false List.mem_cons_self
  have htwo := hone.release false (List.mem_cons_of_mem _ List.mem_cons_self)
  obtain ⟨m, hm, hconsistent⟩ := htwo.manager_consistent
  have hstate : (((twins.release ⟨0⟩ ⟨0, ⟨1⟩, some "k", false⟩ false).2.release ⟨0⟩
      ⟨2, ⟨2⟩, some "k", false⟩ false).2.manager? ⟨0⟩).map
      (fun m => (m.nextId, m.live.entries, m.pooledIds.entries)) = some (3, [], [(⟨2⟩, "k")]) := rfl
  rw [hm] at hstate
  simp only [Option.map_some, Option.some_inj, Prod.mk.injEq] at hstate
  exact ⟨_, _, m, htwo, hm, hconsistent, hstate⟩

end Reachable

end Forest

end Grove

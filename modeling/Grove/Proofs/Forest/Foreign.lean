/-
Releasing a model to a manager that did not issue it. A manager tells its models by their
numbers alone, and all managers count from the same number; so the release is harmless
exactly if the manager has no live or released model of that number
(`Reachable.release_foreign_harmless_iff`). Otherwise the manager loses a live model of its
own, or takes the model for one that it keeps.
-/
import Grove.Proofs.Forest.Reachable

namespace Grove

namespace Manager

/-- A number is that of a live or a released model. -/
def Uses (m : Manager) (id : ModelId) : Prop := m.live.get? id ≠ none ∨ m.pooledIds.get? id ≠ none

variable {m : Manager} {ref own : ModelRef} {capacity : Nat}

theorem release_of_not_uses (h : ¬m.Uses ref.id) (force : Bool) :
    m.release ref force = (true, m) := by
  simp only [Uses, not_or, not_not] at h
  simp [release, Table.contains, h.1, h.2]

/-- A model whose number is that of a released one is taken for it. -/
theorem Consistent.release_of_released (h : m.Consistent capacity)
    (hreleased : m.pooledIds.get? ref.id ≠ none) (force : Bool) :
    m.release ref force = (false, m) := by
  have hdead : m.live.get? ref.id = none := by
    by_contra hlive
    exact hreleased (h.apart _ hlive)
  obtain ⟨key, hkey⟩ := Option.ne_none_iff_exists'.1 hreleased
  simp [Manager.release, Table.contains, hdead, hkey]

theorem live_release_of_live (hlive : m.live.get? ref.id ≠ none) (force : Bool) :
    (m.release ref force).2.live = m.live.erase ref.id := by
  rcases release_cases m ref force with ⟨hdead, -⟩ | ⟨-, heq⟩ | ⟨-, key, pool, -, -, -, heq⟩
  · exact absurd hdead hlive
  · rw [heq]
    rfl
  · rw [heq]
    rfl

/-- A live model whose number another model has is gone once that one is released. -/
theorem Consistent.holder?_release (h : m.Consistent capacity)
    (hlive : m.live.get? ref.id = some own) (hne : own ≠ ref) (force : Bool) (id : ModelId) :
    (m.release ref force).2.holder? id ≠ some own := by
  have hown : own.id = ref.id := h.filed _ _ hlive
  have hstep : Step m (.released ref force (m.release ref force).1) (m.release ref force).2 :=
    .released ref force
  intro hholder
  unfold holder? at hholder
  split at hholder
  next held hheld =>
    obtain rfl := Option.some_inj.1 hholder
    rw [live_release_of_live (by simp [hlive])] at hheld
    obtain ⟨hid, hheld⟩ := Table.eq_some_of_erase hheld
    exact hid ((h.filed _ _ hheld).symm.trans hown)
  next =>
    obtain ⟨⟨key, hkept⟩, -⟩ := mem_released_of_pooled? hholder
    rcases hstep.pooled h hkept with hkept | ⟨_, _, heq⟩
    · have hreleased := (h.inverse own.id key).2 ⟨own, hkept, rfl⟩
      rw [hown, h.apart ref.id (by simp [hlive])] at hreleased
      simp at hreleased
    · exact hne (Event.released.inj heq).1.symm

end Manager

namespace Forest

variable {r : ManagerRef} {f : Forest} {m : Manager} {ref : ModelRef} {config : ManagerConfig}
  {issued : List ModelRef}

/-- A release was answered as a discard, and the manager knows what it knew before. -/
structure Spared (r : ManagerRef) (f : Forest) (answer : Bool × Forest) : Prop where
  discarded : answer.1 = true
  live : (answer.2.manager? r).map (·.live) = (f.manager? r).map (·.live)
  canonical : (answer.2.manager? r).map (·.canonical) = (f.manager? r).map (·.canonical)
  pool : (answer.2.manager? r).map (·.pool) = (f.manager? r).map (·.pool)
  pooledIds : (answer.2.manager? r).map (·.pooledIds) = (f.manager? r).map (·.pooledIds)
  owner : ∀ h, answer.2.ownerOf r h = f.ownerOf r h

theorem setManager_same (hm : f.manager? r = some m) : f.setManager r m = f := by
  obtain ⟨hlt, hget⟩ := Array.getElem?_eq_some_iff.1 hm
  have hsame : f.managers.setIfInBounds r.place m = f.managers := by
    rw [Array.setIfInBounds, dif_pos hlt, ← hget, Array.set_getElem_self]
  rw [setManager, hsame]

theorem manager?_release (hm : f.manager? r = some m) (force : Bool) :
    (f.release r ref force).2.manager? r = some (m.release ref force).2 := by
  simp only [release, hm]
  exact manager?_setManager hm

theorem release_of_same (hm : f.manager? r = some m) {force discarded : Bool}
    (h : m.release ref force = (discarded, m)) : f.release r ref force = (discarded, f) := by
  simp only [release, hm, h, setManager_same hm]

namespace Reachable

/-- The live models of a manager were issued by it. -/
theorem issued_of_live (h : Reachable r config issued f) : ∀ m, f.manager? r = some m →
    ∀ id own, m.live.get? id = some own → own ∈ issued := by
  have hvalues : ∀ {f : Forest} {issued : List ModelRef} (m : Manager), f.manager? r = some m →
      ∀ id own, m.live.get? id = some own → own ∈ f.liveModels r ++ issued := by
    intro f issued m hm id own hlive
    refine List.mem_append_left _ ?_
    simp only [liveModels, hm, Option.map_some, Option.getD_some]
    exact Table.mem_values_of_get? hlive
  induction h with
  | start hconfig hm =>
    intro m hm' id own hlive
    obtain ⟨factory, rfl⟩ := Manager.ofConfig_eq_ok hconfig
    obtain rfl := Option.some_inj.1 (hm.symm.trans hm')
    simp [Manager.ofFactory] at hlive
  | create _ _ _ _ => exact hvalues
  | createFragment _ _ => exact hvalues
  | during _ _ _ _ _ _ _ => exact hvalues
  | @release issued f ref force hbefore href ih =>
    intro m' hm' id own hlive
    obtain ⟨m, hm, -⟩ := hbefore.manager_consistent
    obtain rfl := Option.some_inj.1 ((manager?_release hm force).symm.trans hm')
    rcases (Manager.Step.released ref force).live hlive with hlive | hgiven
    · exact ih m hm id own hlive
    · simp [Manager.Event.given?] at hgiven
  | aside _ hsame ih => exact fun m hm => ih m (hsame ▸ hm)

/-- A model that a manager did not issue is released to it. Nothing changes, and the
model is reported as discarded, exactly if the manager does not use the number of the
model. If it uses it for a live model, that one owns no node any more; if for a released
one, the model is reported as kept. -/
theorem release_foreign_harmless_iff (h : Reachable r config issued f) (hforeign : ref ∉ issued)
    (force : Bool) :
    (Spared r f (f.release r ref force) ↔ ∀ m, f.manager? r = some m → ¬m.Uses ref.id) ∧
    (∀ m own, f.manager? r = some m → m.live.get? ref.id = some own →
      ∀ node, (f.release r ref force).2.ownerRef r node ≠ .ok own) ∧
    (∀ m, f.manager? r = some m → m.pooledIds.get? ref.id ≠ none →
      f.release r ref force = (false, f)) := by
  obtain ⟨m, hm, hcons⟩ := h.manager_consistent
  have honly : ∀ m', f.manager? r = some m' → m' = m := fun m' hm' =>
    Option.some_inj.1 (hm'.symm.trans hm)
  have hkept : m.pooledIds.get? ref.id ≠ none → f.release r ref force = (false, f) := fun hreleased =>
    release_of_same hm (hcons.release_of_released hreleased force)
  refine ⟨⟨fun hspared m' hm' huses => ?_, fun hunused => ?_⟩, fun m' own hm' hlive node howner => ?_,
    fun m' hm' hreleased => hkept (honly m' hm' ▸ hreleased)⟩
  · obtain rfl := honly m' hm'
    rcases huses with hlive | hreleased
    · -- the number is live before and not after
      have hsame := hspared.live
      rw [manager?_release hm, hm, Option.map_some, Option.map_some, Option.some_inj,
        Manager.live_release_of_live hlive] at hsame
      exact hlive (by rw [← hsame, Table.get?_erase_self])
    · have hdiscarded := hspared.discarded
      simp [hkept hreleased] at hdiscarded
  · have hsame := release_of_same hm (Manager.release_of_not_uses (hunused m hm) force)
    rw [hsame]
    exact ⟨rfl, rfl, rfl, rfl, rfl, fun _ => rfl⟩
  · obtain rfl := honly m' hm'
    have hne : own ≠ ref := fun heq => hforeign (heq ▸ h.issued_of_live _ hm _ own hlive)
    unfold ownerRef at howner
    rw [manager?_release hm, Option.bind_some] at howner
    split at howner
    next held hholder =>
      split at howner
      next =>
        obtain rfl := Except.ok.inj howner
        exact hcons.holder?_release hlive hne force _ hholder
      next => simp at howner
    next => simp at howner

/-- A document with nothing in it. -/
def blankSource : Source := .make (some "k") (some .nothing) none

/-- Two managers, each of which has made a model for the same system identifier. -/
def neighbours : Forest :=
  let f : Forest := { managers := #[.standard, .standard] }
  ((f.create ⟨0⟩ blankSource false).2.create ⟨1⟩ blankSource false).2

/-- The models of the neighbours, which have the same number. -/
def leftModel : ModelRef := ⟨0, ⟨0⟩, some "k", false⟩

def rightModel : ModelRef := ⟨1, ⟨0⟩, some "k", false⟩

theorem neighbours_left : Reachable ⟨0⟩ {} [leftModel] neighbours := by
  have hstart : Reachable ⟨0⟩ {} [] { managers := #[.standard, .standard] } := .start rfl rfl
  exact (hstart.create blankSource false).aside rfl

theorem neighbours_right : Reachable ⟨1⟩ {} [rightModel] neighbours := by
  let f : Forest := { managers := #[.standard, .standard] }
  have hstart : Reachable ⟨1⟩ {} [] f := .start rfl rfl
  have hleft : Reachable ⟨1⟩ {} [] (f.create ⟨0⟩ blankSource false).2 := hstart.aside rfl
  have hissued : neighbours.liveModels ⟨1⟩ ++ [] = [rightModel] := rfl
  exact hissued ▸ hleft.create blankSource false

theorem neighbours_live : (neighbours.manager? ⟨0⟩).map (·.live.entries) =
    some [(⟨0⟩, leftModel)] := rfl

/-- A fragment that nobody issued is released to the left neighbour, which uses no such
number, and then the model of the right neighbour. -/
theorem release_foreign_harmless_iff_neighbours :
    Reachable ⟨0⟩ {} [leftModel] neighbours ∧
    (⟨2, ⟨7⟩, none, true⟩ ∉ [leftModel] ∧
      Spared ⟨0⟩ neighbours (neighbours.release ⟨0⟩ ⟨2, ⟨7⟩, none, true⟩ false)) ∧
    (rightModel ∉ [leftModel] ∧
      ¬Spared ⟨0⟩ neighbours (neighbours.release ⟨0⟩ rightModel false)) := by
  have hneither : (⟨2, ⟨7⟩, none, true⟩ : ModelRef) ∉ [leftModel] ∧ rightModel ∉ [leftModel] := by decide
  have hstray := neighbours_left.release_foreign_harmless_iff hneither.1 false
  have hright := neighbours_left.release_foreign_harmless_iff hneither.2 false
  obtain ⟨m, hm, hlive, hreleased⟩ : ∃ m, neighbours.manager? ⟨0⟩ = some m ∧
      m.live.entries = [(⟨0⟩, leftModel)] ∧ m.pooledIds.entries = [] := ⟨_, rfl, rfl, rfl⟩
  refine ⟨neighbours_left, ⟨hneither.1, hstray.1.2 fun m' hm' => ?_⟩,
    ⟨hneither.2, fun hspared => hright.1.1 hspared m hm (.inl ?_)⟩⟩
  · obtain rfl := Option.some_inj.1 (hm.symm.trans hm')
    simp [Manager.Uses, Table.get?, hlive, hreleased]
  · simp [Table.get?, hlive, rightModel]

/-- A model that the right neighbour issued is released to the left one, which then has no
live model any more. -/
theorem release_foreign_takes_own :
    Reachable ⟨0⟩ {} [leftModel] neighbours ∧ Reachable ⟨1⟩ {} [rightModel] neighbours ∧
    rightModel ∉ [leftModel] ∧
    ¬Spared ⟨0⟩ neighbours (neighbours.release ⟨0⟩ rightModel true) := by
  refine ⟨neighbours_left, neighbours_right, by decide, fun hspared => ?_⟩
  have hsame := congrArg (Option.map fun live : Table ModelId ModelRef => live.entries) hspared.live
  have hafter : ((neighbours.release ⟨0⟩ rightModel true).2.manager? ⟨0⟩).map (·.live.entries) =
      some [] := rfl
  simp only [Option.map_map, Function.comp_def, neighbours_live, hafter] at hsame
  simp at hsame

end Reachable

end Forest

end Grove

/-
Bounded lists by recency. Putting an entry in leaves the other entries as they are
but for the one that is pushed out, which was there.
-/
import Mathlib.Data.List.Nodup
import Grove.Forest.Recency

namespace Grove.RecencyList

variable {κ ν : Type} [DecidableEq κ] {r : RecencyList κ ν} {k : κ} {v : ν} {e : κ × ν}

/-- A list that can hold something, holds no more than it can, and holds a key at most
once. -/
structure WellFormed (r : RecencyList κ ν) : Prop where
  roomy : 0 < r.capacity
  bounded : r.entries.length ≤ r.capacity
  distinct : (r.entries.map Prod.fst).Nodup

theorem mem_without : e ∈ r.without k ↔ e ∈ r.entries ∧ e.1 ≠ k := by
  simp [without]

theorem length_without_le : (r.without k).length ≤ r.entries.length :=
  List.length_filter_le _ _

theorem get?_eq_none_iff : r.get? k = none ↔ ∀ e ∈ r.entries, e.1 ≠ k := by
  simp [get?]

omit [DecidableEq κ] in
theorem WellFormed.eq_of_key (h : r.WellFormed) {e' : κ × ν} (he : e ∈ r.entries)
    (he' : e' ∈ r.entries) (hkey : e.1 = e'.1) : e = e' :=
  List.inj_on_of_nodup_map h.distinct he he' hkey

theorem mem_of_get? (hget : r.get? k = some v) : (k, v) ∈ r.entries := by
  obtain ⟨e, hfind, rfl⟩ := Option.map_eq_some_iff.1 hget
  have hkey : e.1 = k := by simpa using List.find?_some hfind
  exact hkey ▸ List.mem_of_find?_eq_some hfind

theorem WellFormed.get?_eq_some_iff (h : r.WellFormed) : r.get? k = some v ↔ (k, v) ∈ r.entries := by
  refine ⟨mem_of_get?, fun hmem => ?_⟩
  cases hget : r.get? k with
  | none => exact absurd rfl (get?_eq_none_iff.1 hget _ hmem)
  | some v' =>
    obtain ⟨-, rfl⟩ := Prod.mk.inj (h.eq_of_key (mem_of_get? hget) hmem rfl)
    rfl

theorem WellFormed.take (h : r.WellFormed) (k : κ) : (r.take k).1.WellFormed where
  roomy := h.roomy
  bounded := Nat.le_trans length_without_le h.bounded
  distinct := (List.filter_sublist.map Prod.fst).nodup h.distinct

/-- What putting an entry in comes to: the list `after` and the entry pushed out. -/
structure Put (r : RecencyList κ ν) (k : κ) (v : ν) (after : RecencyList κ ν)
    (out : Option (κ × ν)) : Prop where
  capacity : after.capacity = r.capacity
  wellFormed : after.WellFormed
  mem_of_out : ∀ e, out = some e → e ∈ r.entries
  mem_iff : ∀ e, e ∈ after.entries ↔ e = (k, v) ∨ e ∈ r.entries ∧ out ≠ some e

namespace WellFormed

variable (h : r.WellFormed)
include h

theorem put_known {old : ν} (hold : r.get? k = some old) :
    Put r k v { r with entries := (k, v) :: r.without k } (some (k, old)) := by
  have hmem := h.get?_eq_some_iff.1 hold
  have hkey : ∀ e ∈ r.entries, (e.1 = k ↔ e = (k, old)) := fun e he =>
    ⟨h.eq_of_key he hmem, fun heq => by rw [heq]⟩
  refine ⟨rfl, ⟨h.roomy, ?_, ?_⟩, ?_, ?_⟩
  · have hlt : (r.without k).length < r.entries.length :=
      List.length_filter_lt_length_iff_exists.2 ⟨_, hmem, by simp⟩
    have := h.bounded
    simp only [List.length_cons]
    omega
  · rw [List.map_cons, List.nodup_cons]
    refine ⟨?_, (List.filter_sublist.map Prod.fst).nodup h.distinct⟩
    intro hk
    obtain ⟨e, he, heq⟩ := List.mem_map.1 hk
    exact (mem_without.1 he).2 heq
  · intro e heq
    exact Option.some_inj.1 heq ▸ hmem
  · intro e
    rw [List.mem_cons, mem_without]
    refine or_congr_right (and_congr_right fun he => ?_)
    rw [Ne, hkey e he, Ne, Option.some_inj, eq_comm]

theorem put_new (hnew : r.get? k = none) (hroom : r.size < r.capacity) :
    Put r k v { r with entries := (k, v) :: r.entries } none := by
  have hkeys := get?_eq_none_iff.1 hnew
  refine ⟨rfl, ⟨h.roomy, hroom, ?_⟩, by simp, by simp⟩
  rw [List.map_cons, List.nodup_cons]
  refine ⟨?_, h.distinct⟩
  intro hk
  obtain ⟨e, he, heq⟩ := List.mem_map.1 hk
  exact hkeys e he heq

theorem put_full (hnew : r.get? k = none) (hfull : ¬r.size < r.capacity) :
    Put r k v { r with entries := (k, v) :: r.entries.dropLast } r.entries.getLast? := by
  have hroomy := h.roomy
  have hbounded := h.bounded
  have hkeys := get?_eq_none_iff.1 hnew
  rw [size] at hfull
  cases hlast : r.entries.getLast? with
  | none =>
    rw [List.getLast?_eq_none_iff.1 hlast, List.length_nil] at hfull
    omega
  | some last =>
    obtain ⟨init, hentries⟩ := List.getLast?_eq_some_iff.1 hlast
    have hinit : r.entries.dropLast = init := by simp [hentries]
    have hmem : ∀ e, e ∈ r.entries ↔ e ∈ init ∨ e = last := by simp [hentries]
    have hdistinct := h.distinct
    rw [hentries, List.map_append, List.nodup_append] at hdistinct
    have hne : ∀ e ∈ init, e ≠ last := by
      rintro e he rfl
      exact hdistinct.2.2 e.1 (List.mem_map_of_mem he) e.1 (by simp) rfl
    rw [hinit]
    refine ⟨rfl, ⟨hroomy, ?_, ?_⟩, ?_, ?_⟩
    · rw [hentries] at hbounded
      simpa using hbounded
    · rw [List.map_cons, List.nodup_cons]
      refine ⟨?_, hdistinct.1⟩
      intro hk
      obtain ⟨e, he, heq⟩ := List.mem_map.1 hk
      exact hkeys e ((hmem e).2 (.inl he)) heq
    · intro e heq
      exact (hmem e).2 (.inr (Option.some_inj.1 heq).symm)
    · intro e
      rw [List.mem_cons, hmem, Ne, Option.some_inj]
      refine or_congr_right ⟨fun he => ⟨.inl he, fun heq => hne e he heq.symm⟩, ?_⟩
      rintro ⟨he | he, hlast⟩
      · exact he
      · exact absurd he.symm hlast

theorem put_spec (k : κ) (v : ν) : Put r k v (r.put k v).1 (r.put k v).2 := by
  unfold RecencyList.put
  split
  next old hold => exact h.put_known hold
  next hnew =>
    split
    next hroom => exact h.put_new hnew hroom
    next hfull => exact h.put_full hnew hfull

/-- An entry that is put in stands in front of those of other keys, as far as there is
room. -/
theorem entries_put (k : κ) (v : ν) :
    (r.put k v).1.entries = ((k, v) :: r.without k).take r.capacity := by
  unfold RecencyList.put
  split
  next old hold => exact (List.take_of_length_le (h.put_known hold).wellFormed.bounded).symm
  next hnew =>
    have hothers : r.without k = r.entries :=
      List.filter_eq_self.2 fun e he => by simpa using get?_eq_none_iff.1 hnew e he
    rw [hothers]
    split
    next hroom => exact (List.take_of_length_le (h.put_new hnew hroom).wellFormed.bounded).symm
    next hfull =>
      have hlength : r.capacity = r.entries.length := Nat.le_antisymm (Nat.not_lt.1 hfull) h.bounded
      obtain ⟨capacity, hcapacity⟩ := Nat.exists_eq_add_one.2 h.roomy
      rw [hcapacity, List.take_succ_cons, List.dropLast_eq_take, ← hlength, hcapacity,
        Nat.add_sub_cancel]

end WellFormed

end Grove.RecencyList

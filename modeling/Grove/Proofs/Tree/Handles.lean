/-
Handles of nodes. A builder refuses what would need more node numbers than a handle has room
for (`Model.Reachable.size_le`), so in every model there can be the handles of its nodes are
told apart, and stand in the order of the numbers.
-/
import Grove.Proofs.Tree.Reachable
import Grove.Proofs.Tree.Recovery

namespace Grove

namespace Builder

variable {b b' : Builder} {event : BuildEvent}

theorem size_addText (t : Tree) (p : Nat) (text : String) :
    (addText t p text).size = t.size + if text.isEmpty || (t.lastText? p).isSome then 0 else 1 := by
  unfold addText
  by_cases htext : text.isEmpty
  · simp [htext]
  · cases hlast : t.lastText? p <;> simp [htext]

theorem size_take (b : Builder) (event : BuildEvent) :
    (b.take event).tree.size = b.tree.size + b.addedNodes event := by
  cases event with
  | startElement name attributes bindings =>
    simp only [take, addedNodes, size_addElement]
    omega
  | characters text => exact size_addText ..
  | comment text => simp [take, addedNodes]
  | instruction target data => simp [take, addedNodes]
  | entity name publicId systemId notationName =>
    simp only [take, declareEntity]
    split <;> rfl
  | _ => rfl

/-- An event that is taken adds no more nodes than have numbers left. -/
theorem added_le_of_taken (h : b.refusal? event = none) (hsize : b.tree.size ≤ Nat.pow 2 nodeIndexBits) :
    b.tree.size + b.addedNodes event ≤ Nat.pow 2 nodeIndexBits := by
  have hadd : ∀ {what}, b.refusalToAdd what event = none →
      b.tree.size + b.addedNodes event ≤ Nat.pow 2 nodeIndexBits := by
    intro what hnone
    simp only [refusalToAdd] at hnone
    split at hnone
    · simp at hnone
    · split at hnone
      · assumption
      · simp at hnone
  cases event with
  | startElement name attributes bindings => exact hadd h
  | characters text => exact hadd h
  | comment text => exact hadd h
  | instruction target data => exact hadd h
  | _ => simpa [addedNodes] using hsize

theorem size_refuse_le (hsize : b.tree.size ≤ Nat.pow 2 nodeIndexBits) :
    (b.refuse event).tree.size ≤ Nat.pow 2 nodeIndexBits := by
  cases event with
  | startElement name attributes bindings =>
    simp only [refuse]
    split
    · exact hsize
    next hroom =>
      simp only [Bool.or_eq_true, decide_eq_true_eq, not_or] at hroom
      simp only [size_addElement, List.length_take]
      omega
  | _ => exact hsize

theorem size_steps_le (h : Relation.ReflTransGen Step b b')
    (hsize : b.tree.size ≤ Nat.pow 2 nodeIndexBits) : b'.tree.size ≤ Nat.pow 2 nodeIndexBits := by
  induction h with
  | refl => exact hsize
  | tail _ hstep ih =>
    cases hstep with
    | taken hnone => exact (size_take ..).trans_le (added_le_of_taken hnone ih)
    | refused _ => exact size_refuse_le ih

end Builder

namespace Model

variable {m : Model} {h : NodeHandle} {i j : Nat} {is : List Nat}

/-- All nodes of a model have numbers that fit into handles. -/
theorem Reachable.size_le (hm : m.Reachable) : m.size ≤ Nat.pow 2 nodeIndexBits := by
  have hone : 1 ≤ Nat.pow 2 nodeIndexBits := by decide
  induction hm with
  | @built f id systemId r supplied feed m hbuild =>
    obtain ⟨t, hfinish, rfl⟩ := Forest.build_eq_ok hbuild
    have hsteps := feed.runWith_steps r supplied
      { forest := f, builder := .ofTree (Tree.ofRoot .document) }
    rw [(Builder.finish_eq_ok_iff.1 hfinish).2]
    exact Builder.size_steps_le hsteps hone
  | fragment id => exact hone
  | @append m feed hm ih =>
    rcases append_cases m feed with ⟨-, e, heq⟩ | ⟨b, hsteps, heq | ⟨e, heq⟩⟩
    · rw [heq]
      exact ih
    · rw [heq]
      exact Builder.size_steps_le hsteps ih
    · rw [heq, append_of_error hm.wellFormed heq]
      exact ih
  | lookedUp _ ih => exact ih

/-- Handles of the model are told apart by the numbers of their nodes. -/
structure Numbered (m : Model) : Prop where
  wellFormed : m.tree.WellFormed
  size_le : m.size ≤ Nat.pow 2 nodeIndexBits

theorem Reachable.numbered (hm : m.Reachable) : m.Numbered := ⟨hm.wellFormed, hm.size_le⟩

namespace Numbered

theorem toNat_index_handle (hm : m.Numbered) (hi : i < m.size) : (m.handle i).index.toNat = i := by
  rw [handle, NodeHandle.index_make]
  exact UInt32.toNat_ofNat_of_lt' (Nat.lt_of_lt_of_le hi hm.size_le)

theorem contains_handle (hm : m.Numbered) (hi : i < m.size) : m.contains (m.handle i) = true := by
  rw [contains, hm.toNat_index_handle hi, decide_eq_true hi, Bool.and_true, beq_iff_eq]
  simp [handle]

theorem locate_handle (hm : m.Numbered) (hi : i < m.size) : m.locate (m.handle i) = .ok i := by
  rw [locate, if_pos (hm.contains_handle hi), hm.toNat_index_handle hi]

theorem ask_handle {α : Type} (hm : m.Numbered) (hi : i < m.size) (answer : Nat → α) :
    m.ask (m.handle i) answer = .ok (answer i) := by
  rw [ask, hm.locate_handle hi]
  rfl

theorem handle_inj (hm : m.Numbered) (hi : i < m.size) (hj : j < m.size) :
    m.handle i = m.handle j ↔ i = j := by
  refine ⟨fun heq => ?_, congrArg _⟩
  rw [← hm.toNat_index_handle hi, heq, hm.toNat_index_handle hj]

theorem precedes_handle (hm : m.Numbered) (hi : i < m.size) (hj : j < m.size) :
    (m.handle i).precedes (m.handle j) = decide (i < j) := by
  have hi' := hm.toNat_index_handle hi
  have hj' := hm.toNat_index_handle hj
  rw [handle, NodeHandle.index_make] at hi' hj'
  rw [handle, handle, NodeHandle.precedes_make, decide_eq_decide, UInt32.lt_iff_toNat_lt, hi', hj']

theorem sorted_handles (hm : m.Numbered) (his : ∀ i ∈ is, i < m.size)
    (hsorted : is.Pairwise (· < ·)) : (m.handles is).Pairwise (·.precedes ·) := by
  refine List.pairwise_map.2 (hsorted.imp_of_mem fun hi hj hlt => ?_)
  rw [hm.precedes_handle (his _ hi) (his _ hj)]
  exact decide_eq_true hlt

end Numbered

/-- A handle that the model knows is that of one of its nodes. -/
theorem exists_handle_of_locate (hlocate : m.locate h = .ok i) : i < m.size ∧ h = m.handle i := by
  unfold locate at hlocate
  split at hlocate
  next hcontains =>
    simp only [contains, Bool.and_eq_true, beq_iff_eq, decide_eq_true_eq] at hcontains
    obtain rfl : h.index.toNat = i := by simpa using hlocate
    refine ⟨hcontains.2, ?_⟩
    rw [handle, ← hcontains.1, UInt32.ofNat_toNat, NodeHandle.make_model_index]
  next => simp at hlocate

theorem exists_handle_of_contains (hcontains : m.contains h = true) : ∃ i < m.size, h = m.handle i := by
  have hlocate : m.locate h = .ok h.index.toNat := by rw [locate, if_pos hcontains]
  exact ⟨_, exists_handle_of_locate hlocate⟩

theorem exists_of_ask {α : Type} {answer : Nat → α} {a : α} (hask : m.ask h answer = .ok a) :
    ∃ i < m.size, h = m.handle i ∧ answer i = a := by
  obtain ⟨i, hlocate, ha⟩ := map_eq_ok_iff.1 hask
  obtain ⟨hi, hh⟩ := exists_handle_of_locate hlocate
  exact ⟨i, hi, hh, ha⟩

end Model

end Grove

/-
Packing. As a number, the word of a handle is that of its model times the count of all node numbers,
plus that of its node (`NodeHandle.toNat_raw`), and no node number is large enough to carry into the
number of the model. So a handle is taken apart and put together again without loss, whatever its
word is, and to compare two words is to compare the numbers of the models first and those of the
nodes where these are the same (`NodeHandle.packing_order_isomorphism`).
-/
import Grove.Handle

namespace Grove

namespace NodeHandle

variable {a b : NodeHandle}

theorem toNat_raw (h : NodeHandle) :
    h.raw.toNat = h.model.val.toNat * Nat.pow 2 nodeIndexBits + h.index.toNat := by
  rw [← toNat_raw_make, make_model_index]

/-- The smaller word is that of the smaller model, or of the smaller node of the same model. -/
theorem raw_lt_raw_iff :
    a.raw < b.raw ↔ a.model.val < b.model.val ∨ a.model.val = b.model.val ∧ a.index < b.index := by
  -- both node numbers are below the factor of the model numbers, so unequal products decide
  have ha := a.index.toNat_lt
  have hb := b.index.toNat_lt
  rw [UInt64.lt_iff_toNat_lt, UInt32.lt_iff_toNat_lt, UInt32.lt_iff_toNat_lt, ← UInt32.toNat_inj,
    toNat_raw a, toNat_raw b, pow_nodeIndexBits]
  omega

theorem raw_eq_raw_iff : a.raw = b.raw ↔ a.model.val = b.model.val ∧ a.index = b.index := by
  have ha := a.index.toNat_lt
  have hb := b.index.toNat_lt
  rw [← UInt64.toNat_inj, ← UInt32.toNat_inj, ← UInt32.toNat_inj, toNat_raw a, toNat_raw b,
    pow_nodeIndexBits]
  omega

/-- Handles are compared by their models, and within one model by their nodes. -/
theorem compare_eq_then (a b : NodeHandle) :
    a.compare b = (Ord.compare a.model.val b.model.val).then (Ord.compare a.index b.index) := by
  cases horder : (Ord.compare a.model.val b.model.val).then (Ord.compare a.index b.index) with
  | lt =>
    rw [Ordering.then_eq_lt, Std.compare_eq_lt, Std.compare_eq_eq_iff_eq,
      Std.compare_eq_lt] at horder
    exact Std.compare_eq_lt.2 (raw_lt_raw_iff.2 horder)
  | eq =>
    rw [Ordering.then_eq_eq, Std.compare_eq_eq_iff_eq, Std.compare_eq_eq_iff_eq] at horder
    exact Std.compare_eq_eq_iff_eq.2 (raw_eq_raw_iff.2 horder)
  | gt =>
    rw [Ordering.then_eq_gt, Std.compare_eq_gt, Std.compare_eq_eq_iff_eq, Std.compare_eq_gt,
      eq_comm] at horder
    exact Std.compare_eq_gt.2 (raw_lt_raw_iff.2 horder)

/-- The last node there can be of a model comes before the first of the next. -/
example : (make ⟨1⟩ 0xFFFFFFFF).compare (make ⟨2⟩ 0) = .lt := by decide

theorem precedes_eq_isLT (a b : NodeHandle) : a.precedes b = (a.compare b).isLT := by
  rw [Bool.eq_iff_iff, Ordering.isLT_iff_eq_lt, compare, Std.compare_eq_lt, precedes,
    decide_eq_true_eq]

theorem atOrBefore_eq_isLE (a b : NodeHandle) : a.atOrBefore b = (a.compare b).isLE := by
  rw [Bool.eq_iff_iff, compare, Std.isLE_compare, atOrBefore, decide_eq_true_eq]

/-- Every word is the handle of the model and the node it is read as, every model and node are read
back from their handle, and handles are ordered as the pairs of the two, the model first, which is
also the order they are sorted by. -/
theorem packing_order_isomorphism :
    (∀ raw : UInt64, (make (mk raw).model (mk raw).index).raw = raw) ∧
    (∀ (model : ModelId) (index : UInt32),
      (make model index).model = model ∧ (make model index).index = index) ∧
    ∀ a b : NodeHandle,
      a.compare b = (Ord.compare a.model.val b.model.val).then (Ord.compare a.index b.index) ∧
      a.precedes b = (a.compare b).isLT ∧ a.atOrBefore b = (a.compare b).isLE := by
  refine ⟨fun raw => ?_, fun model index => ?_, fun a b => ?_⟩
  · rw [make_model_index]
  · exact ⟨model_make model index, index_make model index⟩
  · exact ⟨compare_eq_then a b, precedes_eq_isLT a b, atOrBefore_eq_isLE a b⟩

end NodeHandle

end Grove

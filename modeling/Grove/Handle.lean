/-
Node handles. A handle is one 64-bit word: the number of the model in the high
half, the number of the node within the model in the low half. Nodes are
numbered in document order, so the order of the words is document order, model
by model.
-/

namespace Grove

/-- The number of a model, unique within its manager. -/
structure ModelId where
  val : UInt32
  deriving DecidableEq, Repr

namespace ModelId

def text (id : ModelId) : String := "dtm#" ++ Nat.repr id.val.toNat

end ModelId

/-- How many low bits of a handle number the node. -/
def nodeIndexBits : Nat := 32

/-- The address of a node. -/
structure NodeHandle where
  raw : UInt64
  deriving DecidableEq, Repr

namespace NodeHandle

/-- The handle of a node of a model. -/
def make (model : ModelId) (index : UInt32) : NodeHandle :=
  ⟨(model.val.toUInt64 <<< 32) ||| index.toUInt64⟩

def model (h : NodeHandle) : ModelId := ⟨(h.raw >>> 32).toUInt32⟩

def index (h : NodeHandle) : UInt32 := (h.raw &&& 0xFFFFFFFF).toUInt32

/-- Model and node number with a colon between. -/
def text (h : NodeHandle) : String :=
  Nat.repr h.model.val.toNat ++ ":" ++ Nat.repr h.index.toNat

/-- Document order: by model, then by node. -/
def precedes (a b : NodeHandle) : Bool := a.raw < b.raw

/-- Document order with equality. -/
def atOrBefore (a b : NodeHandle) : Bool := a.raw ≤ b.raw

/-- Document order as a comparison. -/
def compare (a b : NodeHandle) : Ordering := Ord.compare a.raw b.raw

/-- A list of handles in document order. -/
def sort (hs : List NodeHandle) : List NodeHandle := hs.mergeSort atOrBefore

/-- A list of handles in document order, each once. -/
def sortDistinct (hs : List NodeHandle) : List NodeHandle := (sort hs).eraseReps

theorem pow_nodeIndexBits : Nat.pow 2 nodeIndexBits = 4294967296 := rfl

theorem toNat_raw_make (model : ModelId) (index : UInt32) :
    (make model index).raw.toNat = model.val.toNat * Nat.pow 2 nodeIndexBits + index.toNat := by
  have hi := index.toNat_lt
  have hm := model.val.toNat_lt
  have hshift : (model.val.toUInt64 <<< 32).toNat = model.val.toNat <<< 32 := by
    rw [UInt64.toNat_shiftLeft]
    simp [Nat.shiftLeft_eq]
    omega
  rw [make, UInt64.toNat_or, hshift, UInt32.toNat_toUInt64, ← Nat.shiftLeft_add_eq_or_of_lt hi,
    Nat.shiftLeft_eq]
  rfl

theorem toNat_model (h : NodeHandle) :
    h.model.val.toNat = h.raw.toNat / Nat.pow 2 nodeIndexBits := by
  have := h.raw.toNat_lt
  rw [model, UInt64.toNat_toUInt32, UInt64.toNat_shiftRight, pow_nodeIndexBits]
  simp [Nat.shiftRight_eq_div_pow]
  omega

theorem toNat_index (h : NodeHandle) : h.index.toNat = h.raw.toNat % Nat.pow 2 nodeIndexBits := by
  have hmask : (0xFFFFFFFF : UInt64).toNat = 2 ^ 32 - 1 := rfl
  rw [index, UInt64.toNat_toUInt32, UInt64.toNat_and, hmask, Nat.and_two_pow_sub_one_eq_mod,
    pow_nodeIndexBits]
  omega

@[simp] theorem model_make (model : ModelId) (index : UInt32) : (make model index).model = model := by
  have hi := index.toNat_lt
  have hval : (make model index).model.val.toNat = model.val.toNat := by
    rw [toNat_model, toNat_raw_make, pow_nodeIndexBits]
    omega
  exact congrArg ModelId.mk (UInt32.toNat_inj.1 hval)

@[simp] theorem index_make (model : ModelId) (index : UInt32) : (make model index).index = index := by
  have hi := index.toNat_lt
  refine UInt32.toNat_inj.1 ?_
  rw [toNat_index, toNat_raw_make, pow_nodeIndexBits]
  omega

@[simp] theorem make_model_index (h : NodeHandle) : make h.model h.index = h := by
  have hraw : (make h.model h.index).raw.toNat = h.raw.toNat := by
    rw [toNat_raw_make, toNat_model, toNat_index, pow_nodeIndexBits]
    omega
  exact congrArg NodeHandle.mk (UInt64.toNat_inj.1 hraw)

theorem precedes_make {model : ModelId} {i j : UInt32} :
    (make model i).precedes (make model j) = decide (i < j) := by
  simp [precedes, UInt64.lt_iff_toNat_lt, UInt32.lt_iff_toNat_lt, toNat_raw_make]

@[simp] theorem mem_sort {h : NodeHandle} {hs : List NodeHandle} : h ∈ sort hs ↔ h ∈ hs :=
  List.mem_mergeSort

theorem sorted_sort (hs : List NodeHandle) : (sort hs).Pairwise (·.atOrBefore ·) := by
  refine List.pairwise_mergeSort (fun a b c hab hbc => ?_) (fun a b => ?_) hs
  · simp only [atOrBefore, decide_eq_true_eq] at hab hbc ⊢
    exact UInt64.le_trans hab hbc
  · simp only [atOrBefore, Bool.or_eq_true, decide_eq_true_eq]
    exact UInt64.le_total a.raw b.raw

theorem precedes_of_ne {a b : NodeHandle} (hle : a.atOrBefore b) (hne : a ≠ b) : a.precedes b := by
  simp only [atOrBefore, precedes, decide_eq_true_eq] at hle ⊢
  exact UInt64.lt_of_le_of_ne hle fun heq => hne (congrArg mk heq)

theorem precedes_trans {a b c : NodeHandle} (hab : a.precedes b) (hbc : b.atOrBefore c) :
    a.precedes c := by
  simp only [atOrBefore, precedes, decide_eq_true_eq] at hab hbc ⊢
  exact UInt64.lt_of_lt_of_le hab hbc

theorem sorted_sort_of_nodup {hs : List NodeHandle} (h : hs.Nodup) :
    (sort hs).Pairwise (·.precedes ·) := by
  have hnodup : (sort hs).Nodup := (List.mergeSort_perm hs _).nodup_iff.2 h
  exact (List.pairwise_and_iff.2 ⟨sorted_sort hs, hnodup⟩).imp fun hab => precedes_of_ne hab.1 hab.2

end NodeHandle

section Repetitions

variable {α : Type} [DecidableEq α]

theorem eraseReps_cons_cons (a b : α) (l : List α) :
    (a :: b :: l).eraseReps = if a = b then (a :: l).eraseReps else a :: (b :: l).eraseReps := by
  have hloop : ∀ (l : List α) (c : α) (done : List α),
      List.eraseRepsBy.loop (· == ·) c l done =
        done.reverse ++ List.eraseRepsBy.loop (· == ·) c l [] := by
    intro l
    induction l with
    | nil => simp [List.eraseRepsBy.loop]
    | cons d l ih =>
      intro c done
      simp only [List.eraseRepsBy.loop]
      split
      · exact ih c done
      · rw [ih d (c :: done), ih d [c]]
        simp
  show List.eraseRepsBy.loop (· == ·) a (b :: l) [] = _
  rw [List.eraseRepsBy.loop]
  by_cases hab : a = b
  · simp [hab, List.eraseReps, List.eraseRepsBy]
  · simp only [beq_eq_false_iff_ne.2 hab, if_neg hab]
    exact hloop l b [a]

theorem mem_eraseReps {x : α} {l : List α} : x ∈ l.eraseReps ↔ x ∈ l := by
  cases l with
  | nil => rfl
  | cons a l =>
    induction l generalizing a with
    | nil => rfl
    | cons b l ih =>
      rw [eraseReps_cons_cons]
      split
      next hab => simp [ih, hab]
      next => simp [ih]

end Repetitions

namespace NodeHandle

theorem sorted_eraseReps {hs : List NodeHandle} (h : hs.Pairwise (·.atOrBefore ·)) :
    hs.eraseReps.Pairwise (·.precedes ·) := by
  cases hs with
  | nil => exact .nil
  | cons a hs =>
    induction hs generalizing a with
    | nil => exact List.pairwise_singleton _ _
    | cons b hs ih =>
      obtain ⟨ha, hb⟩ := List.pairwise_cons.1 h
      rw [eraseReps_cons_cons]
      split
      next hab => exact ih a (h.sublist (.cons_cons a (List.sublist_cons_self b hs)))
      next hab =>
        refine List.pairwise_cons.2 ⟨fun c hc => ?_, ih b hb⟩
        have hlt : a.precedes b := precedes_of_ne (ha b List.mem_cons_self) hab
        rcases List.mem_cons.1 (mem_eraseReps.1 hc) with rfl | hc
        · exact hlt
        · exact precedes_trans hlt ((List.pairwise_cons.1 hb).1 c hc)

@[simp] theorem mem_sortDistinct {h : NodeHandle} {hs : List NodeHandle} :
    h ∈ sortDistinct hs ↔ h ∈ hs := by
  rw [sortDistinct, mem_eraseReps, mem_sort]

theorem sorted_sortDistinct (hs : List NodeHandle) : (sortDistinct hs).Pairwise (·.precedes ·) :=
  sorted_eraseReps (sorted_sort hs)

end NodeHandle

end Grove

/-
Expressions that come to the same items. Paths, filters and predicates take no more of what is in
their slots than its items, so they do the same over expressions that are alike (`Alike.path`,
`Alike.filter`, `Alike.step`). A path within a path goes on where it ends, and so does a filter
over a filter (`Alike.path_append`, `Alike.filter_append`).
-/
import Grove.Proofs.Eval.Items

namespace Grove

open Eval

namespace Expr

variable {f : Forest} {c : Context} {e e' : Expr} {es es' ps ps' : List Expr}

/-- With whatever in focus, two expressions come to the same items, or fail alike. -/
def Alike (f : Forest) (c : Context) (e e' : Expr) : Prop :=
  ∀ focus, e.evaluateAll f { c with focus } = e'.evaluateAll f { c with focus }

namespace Alike

theorem refl (e : Expr) : Alike f c e e := fun _ => rfl

theorem symm (h : Alike f c e e') : Alike f c e' e := fun focus => (h focus).symm

theorem trans {e₁ e₂ e₃ : Expr} (h : Alike f c e₁ e₂) (h' : Alike f c e₂ e₃) : Alike f c e₁ e₃ :=
  fun focus => (h focus).trans (h' focus)

theorem refocus (h : Alike f c e e') (focus : List Focus) : Alike f { c with focus } e e' :=
  fun focus => h focus

theorem keepFrom_eq (h : Alike f c e e') (size position : Nat) (vs : List Value) :
    keepFrom e.evaluate size position vs f c = keepFrom e'.evaluate size position vs f c :=
  keepFrom_congr e.neutral_evaluate e'.neutral_evaluate h size position vs

theorem stepFrom_eq (h : Alike f c e e') (size position : Nat) (hs : List NodeHandle) :
    stepFrom e.evaluate size position hs f c = stepFrom e'.evaluate size position hs f c :=
  stepFrom_congr e.neutral_evaluate e'.neutral_evaluate h size position hs

end Alike

/-! ## Alike in parts -/

theorem keepAll_eq_of_alike (h : List.Forall₂ (Alike f c) ps ps') (vs : List Value) :
    keepAll ps vs f c = keepAll ps' vs f c := by
  induction h generalizing vs with
  | nil => rfl
  | cons hp _ ih => exact (Local.applyPredicate (neutral_evaluate _) vs).bind_congr (hp.keepFrom_eq ..) ih

theorem stepAll_eq_of_alike (h : List.Forall₂ (Alike f c) es es') (vs : List Value) :
    stepAll es vs f c = stepAll es' vs f c := by
  induction h generalizing vs with
  | nil => rfl
  | cons he _ ih =>
    refine (Local.ofExcept _).bind_congr rfl fun nodes => ?_
    refine (Local.stepFrom (neutral_evaluate _) _ _ _).bind_congr (he.stepFrom_eq ..) fun found => ?_
    exact (Local.ofExcept _).bind_congr rfl ih

namespace Alike

theorem filter (hb : Alike f c e e') (hps : List.Forall₂ (Alike f c) ps ps') :
    Alike f c (apply .filter ((e :: ps).map some)) (apply .filter ((e' :: ps').map some)) := by
  intro focus
  rw [evaluateAll_filter, evaluateAll_filter]
  refine e'.neutral_evaluateAll.bind_congr (hb focus) fun vs => ?_
  exact keepAll_eq_of_alike (hps.imp fun _ _ hp => hp.refocus focus) vs

theorem step (axis : Axis) (test : NodeTest) (hps : List.Forall₂ (Alike f c) ps ps') :
    Alike f c (apply (.step axis test) (ps.map some)) (apply (.step axis test) (ps'.map some)) := by
  intro focus
  rw [evaluateAll_step, evaluateAll_step]
  refine (Local.reach axis test).bind_congr rfl fun found => bind_congr_at ?_ fun _ _ _ => rfl
  exact keepAll_eq_of_alike (hps.imp fun _ _ hp => hp.refocus focus) _

theorem path (start : PathStart) (hes : List.Forall₂ (Alike f c) es es') :
    Alike f c (apply (.path start) (es.map some)) (apply (.path start) (es'.map some)) := by
  intro focus
  have hrooted : ∀ whole, (origin whole >>= stepAll es) f { c with focus } =
      (origin whole >>= stepAll es') f { c with focus } := fun whole =>
    (Local.origin whole).bind_congr rfl
      (stepAll_eq_of_alike (hes.imp fun _ _ he => he.refocus focus))
  cases start with
  | relative =>
    cases hes with
    | nil => rfl
    | cons he hes =>
      rw [evaluateAll_path_cons, evaluateAll_path_cons]
      refine (neutral_evaluate _).items.bind_congr (he focus) fun vs => ?_
      exact stepAll_eq_of_alike (hes.imp fun _ _ he => he.refocus focus) vs
  | root =>
    rw [evaluateAll_path_root, evaluateAll_path_root]
    exact hrooted false
  | rootDescendants =>
    rw [evaluateAll_path_rootDescendants, evaluateAll_path_rootDescendants]
    exact hrooted true

/-- A path of one step is the step. -/
theorem path_single (e : Expr) : Alike f c (apply (.path .relative) [some e]) e := by
  intro focus
  refine congrFun (congrFun ((evaluateAll_path_cons e []).trans ?_) f) _
  exact bind_pure _

/-- A path goes on behind its last step as a path over it does. -/
theorem path_append {start : PathStart} (h : start ≠ .relative ∨ es ≠ []) (es' : List Expr) :
    Alike f c (apply (.path start) ((es ++ es').map some))
      (apply (.path .relative) ((apply (.path start) (es.map some) :: es').map some)) := by
  intro focus
  rw [evaluateAll_path_cons]
  cases start with
  | relative =>
    obtain ⟨e, es, rfl⟩ := List.exists_cons_of_ne_nil (h.resolve_left (absurd rfl))
    rw [List.cons_append, evaluateAll_path_cons, evaluateAll_path_cons, bind_assoc]
    simp only [stepAll_append]
  | root =>
    rw [evaluateAll_path_root, evaluateAll_path_root, bind_assoc]
    simp only [stepAll_append]
  | rootDescendants =>
    rw [evaluateAll_path_rootDescendants, evaluateAll_path_rootDescendants, bind_assoc]
    simp only [stepAll_append]

/-- A filter without predicates is its base. -/
theorem filter_nil (e : Expr) : Alike f c (apply .filter [some e]) e := by
  intro focus
  refine congrFun (congrFun ((evaluateAll_filter e []).trans ?_) f) _
  exact bind_pure _

/-- A filter goes on behind its last predicate as a filter over it does. -/
theorem filter_append (e : Expr) (ps qs : List Expr) :
    Alike f c (apply .filter ((e :: (ps ++ qs)).map some))
      (apply .filter ((apply .filter ((e :: ps).map some) :: qs).map some)) := by
  intro focus
  rw [evaluateAll_filter, evaluateAll_filter, evaluateAll_filter, bind_assoc]
  simp only [keepAll_append]

end Alike

/-! ## What is attached -/

theorem filled_eq (es : List Expr) : filled es = (es.map reduce).map some := by
  rw [List.map_map]
  rfl

theorem reduce_apply {op : Operator} (h : op.isWrapper = false) (slots : List (Option Expr)) :
    (apply op slots).reduce = apply op slots := by
  unfold reduce
  split
  next heq =>
    obtain ⟨rfl, rfl⟩ := apply.inj heq
    rw [h, if_neg Bool.false_ne_true]
  next => rfl

theorem filter_eq (b : Expr) (ps : List Expr) :
    filter b ps = apply .filter ((b.reduce :: ps.map reduce).map some) :=
  congrArg (apply .filter) (filled_eq (b :: ps))

theorem step_eq (axis : Axis) (test : NodeTest) (ps : List Expr) :
    step axis test ps = apply (.step axis test) ((ps.map reduce).map some) :=
  congrArg (apply (.step axis test)) (filled_eq ps)

theorem path_eq (start : PathStart) (es : List Expr) :
    path start es = apply (.path start) ((es.map reduce).map some) :=
  congrArg (apply (.path start)) (filled_eq es)

end Expr

end Grove

/-
Paths, steps and filters of which the text says what they are. A path stands in parentheses only
where it is the base of a filter, and a step nowhere. So a path among the steps of a path looks
like more steps, and predicates over a step look like those of the step. Neither does harm where
it comes to the same: a path may begin with a path that ends in a step, and along a forward axis
predicates count alike. An expression in which neither happens elsewhere is legible
(`Expr.Legible`).
-/
import Grove.Proofs.Expr.Token

namespace Grove.Expr

variable {e : Expr}

/-- An expression of paths, steps and filters over the item in focus, variables and numbers from
zero on. -/
inductive Navigational : Expr → Prop
  | contextItem : Navigational contextItem
  | var {name : String} : IsPlainName name → Navigational (varRef (.plain name))
  | integer {i : Int64} : 0 ≤ i.toInt → Navigational (integer i)
  | path (start : PathStart) {es : List Expr} : (∀ e ∈ es, Navigational e) →
      Navigational (apply (.path start) (es.map some))
  | step (axis : Axis) {test : NodeTest} {ps : List Expr} : test.IsPlain →
      (∀ p ∈ ps, Navigational p) → Navigational (apply (.step axis test) (ps.map some))
  | filter {b : Expr} {ps : List Expr} : Navigational b → (∀ p ∈ ps, Navigational p) →
      Navigational (apply .filter ((b :: ps).map some))

/-- No path, or a path of such a step alone: what reads as one step of the path it stands in. -/
inductive IsSegment : Expr → Prop
  | other {e : Expr} : e.kind ≠ .path → IsSegment e
  | wrapped {e : Expr} : IsSegment e → IsSegment (apply (.path .relative) [some e])

/-- No path, or a path that ends in a step: what reads as the beginning of the path it stands
in. -/
inductive IsFront : Expr → Prop
  | other {e : Expr} : e.kind ≠ .path → IsFront e
  | rooted {start : PathStart} {es : List Expr} : start ≠ .relative → es ≠ [] →
      IsFront (apply (.path start) (es.map some))
  | path (e : Expr) {es : List Expr} : es ≠ [] → IsFront (apply (.path .relative) ((e :: es).map some))
  | wrapped {e : Expr} : IsFront e → IsFront (apply (.path .relative) [some e])

/-- A step along a reverse axis, or a filter over one. -/
inductive CountsBackward : Expr → Prop
  | step {axis : Axis} (test : NodeTest) (slots : List (Option Expr)) : axis.isReverse = true →
      CountsBackward (apply (.step axis test) slots)
  | filter {b : Expr} (slots : List (Option Expr)) : CountsBackward b →
      CountsBackward (apply .filter (some b :: slots))

/-- Without parentheses around steps and paths the text says what the expression is: the steps
of a path are no paths, but for a first one that ends in a step, and there are no predicates
over a step along a reverse axis but its own. -/
inductive Legible : Expr → Prop
  | contextItem : Legible contextItem
  | var {name : String} : IsPlainName name → Legible (varRef (.plain name))
  | integer {i : Int64} : 0 ≤ i.toInt → Legible (integer i)
  | step (axis : Axis) {test : NodeTest} {ps : List Expr} : test.IsPlain → (∀ p ∈ ps, Legible p) →
      Legible (apply (.step axis test) (ps.map some))
  | filter {b : Expr} {ps : List Expr} : Legible b → (∀ p ∈ ps, Legible p) →
      (ps ≠ [] → ¬CountsBackward b) → Legible (apply .filter ((b :: ps).map some))
  | rooted {start : PathStart} {es : List Expr} : start ≠ .relative → (∀ e ∈ es, Legible e) →
      (∀ e ∈ es, IsSegment e) → Legible (apply (.path start) (es.map some))
  | empty : Legible (apply (.path .relative) [])
  | wrapped {e : Expr} : Legible e → Legible (apply (.path .relative) [some e])
  | path {e : Expr} {es : List Expr} : Legible e → IsFront e → (∀ e ∈ es, Legible e) →
      (∀ e ∈ es, IsSegment e) → es ≠ [] → Legible (apply (.path .relative) ((e :: es).map some))

theorem Legible.navigational {e : Expr} (h : e.Legible) : e.Navigational := by
  induction h with
  | contextItem => exact .contextItem
  | var hname => exact .var hname
  | integer hi => exact .integer hi
  | step axis htest _ ih => exact .step axis htest ih
  | filter _ _ _ ihb ihps => exact .filter ihb ihps
  | rooted _ _ _ ih => exact .path _ ih
  | empty =>
    have hnone : ∀ e ∈ ([] : List Expr), Navigational e := by simp
    exact .path .relative hnone
  | @wrapped e _ ih =>
    have hone : ∀ e' ∈ [e], Navigational e' := by simpa using ih
    exact .path .relative hone
  | path _ _ _ _ _ ihe ihes => exact .path .relative (List.forall_mem_cons.2 ⟨ihe, ihes⟩)

/-! ## Texts -/

/-- What predicates read as. -/
def predicatesText (ps : List Expr) : String :=
  String.join (ps.map fun p => Rendered.predicate (some (p.rendered false)))

theorem delimited_predicatesText (ps : List Expr) {k : List Char} (hk : Delimited k) :
    Delimited ((predicatesText ps).toList ++ k) := by
  cases ps with
  | nil => simpa [predicatesText] using hk
  | cons p ps =>
    have htext : ∃ k', (predicatesText (p :: ps)).toList ++ k = '[' :: k' := by
      simp [predicatesText, Rendered.predicate]
    obtain ⟨k', hk'⟩ := htext
    rw [hk']
    exact delimited_cons (by decide)

/-- The text of steps behind another. -/
def stepsText (es : List Expr) : String := String.join (es.map fun e => "/" ++ e.render false)

theorem delimited_stepsText (es : List Expr) {k : List Char} (hk : Delimited k) :
    Delimited ((stepsText es).toList ++ k) := by
  cases es with
  | nil => simpa [stepsText] using hk
  | cons e es =>
    have htext : ∃ k', (stepsText (e :: es)).toList ++ k = '/' :: k' := by simp [stepsText]
    obtain ⟨k', hk'⟩ := htext
    rw [hk']
    exact delimited_cons (by decide)

theorem renderedSlots_map_some (es : List Expr) :
    renderedSlots false (es.map some) = es.map fun e => some (e.rendered false) := by
  induction es with
  | nil => rfl
  | cons e es ih => exact congrArg (some (e.rendered false) :: ·) ih

theorem render_step (axis : Axis) (test : NodeTest) (ps : List Expr) :
    (apply (.step axis test) (ps.map some)).render false =
      (Token.step axis test).text ++ predicatesText ps := by
  show axis.renderStep test _ false ++ String.join ((renderedSlots false (ps.map some)).map _) = _
  rw [renderedSlots_map_some, List.map_map]
  rfl

theorem render_filter (b : Expr) (ps : List Expr) :
    (apply .filter ((b :: ps).map some)).render false =
      Rendered.operand (some (b.rendered false)) .primary true ++ predicatesText ps := by
  show Rendered.operand (some (b.rendered false)) .primary true ++
    String.join ((renderedSlots false (ps.map some)).map _) = _
  rw [renderedSlots_map_some, List.map_map]
  rfl

theorem render_path (start : PathStart) (es : List Expr) :
    (apply (.path start) (es.map some)).render false = start.render ++
      "/".intercalate (es.map fun e => Rendered.operand (some (e.rendered false)) .path true) := by
  show start.render ++ "/".intercalate ((renderedSlots false (es.map some)).map _) = _
  rw [renderedSlots_map_some, List.map_map]
  rfl

/-- Among paths, steps and filters only a path stands in parentheses, and only as the base of a
filter. -/
theorem Navigational.operand (h : e.Navigational) :
    Rendered.operand (some (e.rendered false)) .path true = e.render false ∧
      Rendered.operand (some (e.rendered false)) .primary true =
        if e.kind = .path then "(" ++ e.render false ++ ")" else e.render false := by
  cases h <;> exact ⟨rfl, rfl⟩

theorem render_path_cons (start : PathStart) {es : List Expr} (he : e.Navigational)
    (hes : ∀ e ∈ es, e.Navigational) :
    (apply (.path start) ((e :: es).map some)).render false =
      start.render ++ e.render false ++ stepsText es := by
  have htexts : (e :: es).map (fun e => Rendered.operand (some (e.rendered false)) .path true) =
      (e :: es).map (·.render false) :=
    List.map_congr_left (List.forall_mem_cons.2 ⟨he.operand.1, fun e he => (hes e he).operand.1⟩)
  rw [render_path, htexts, String.append_assoc]
  refine congrArg (start.render ++ ·) ?_
  clear he hes htexts
  induction es generalizing e with
  | nil => simp [stepsText]
  | cons e' es ih =>
    have hrest := ih (e := e')
    rw [List.map_cons] at hrest
    rw [List.map_cons, List.map_cons, String.intercalate_cons_cons, hrest]
    simp [stepsText, String.append_assoc]

/-! ## Paths within paths -/

theorem apply_path_inj {start start' : PathStart} {es es' : List Expr}
    (h : apply (.path start) (es.map some) = apply (.path start') (es'.map some)) :
    start = start' ∧ es = es' := by
  injection h with hop hslots
  injection hop with hstart
  exact ⟨hstart, List.map_injective_iff.2 (fun _ _ h => Option.some_inj.1 h) hslots⟩

theorem IsSegment.of_path {start : PathStart} {es : List Expr}
    (h : IsSegment (apply (.path start) (es.map some))) :
    start = .relative ∧ ∃ e, es = [e] ∧ e.IsSegment := by
  generalize heq : apply (.path start) (es.map some) = p at h
  cases h with
  | other hk =>
    subst heq
    exact absurd rfl hk
  | @wrapped e he =>
    replace heq : apply (.path start) (es.map some) = apply (.path .relative) ([e].map some) := heq
    obtain ⟨rfl, rfl⟩ := apply_path_inj heq
    exact ⟨rfl, e, rfl, he⟩

theorem IsFront.of_path {start : PathStart} {es : List Expr}
    (h : IsFront (apply (.path start) (es.map some))) :
    es ≠ [] ∧ ∀ e, start = .relative → es = [e] → e.IsFront := by
  generalize heq : apply (.path start) (es.map some) = p at h
  cases h with
  | other hk =>
    subst heq
    exact absurd rfl hk
  | rooted hstart hes =>
    obtain ⟨rfl, rfl⟩ := apply_path_inj heq
    exact ⟨hes, fun _ hrelative => absurd hrelative hstart⟩
  | @path e es' hes =>
    obtain ⟨rfl, rfl⟩ := apply_path_inj heq
    exact ⟨List.cons_ne_nil _ _, fun _ _ hone => absurd (List.cons.inj hone).2 hes⟩
  | @wrapped e he =>
    replace heq : apply (.path start) (es.map some) = apply (.path .relative) ([e].map some) := heq
    obtain ⟨rfl, rfl⟩ := apply_path_inj heq
    refine ⟨List.cons_ne_nil _ _, fun e' _ hone => ?_⟩
    obtain rfl : e = e' := (List.cons.inj hone).1
    exact he

end Grove.Expr

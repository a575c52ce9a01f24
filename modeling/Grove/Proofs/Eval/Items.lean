/-
The items of filters, paths and steps. What a slot computes is a value that is taken apart into
its items, and what a filter, a path or a step computes is collected from items; so nothing but
items counts (`keepFrom_cons`, `stepFrom_cons`). The evaluator goes through its slots by number;
here they are followed along the list of what is in the slots (`applyPredicates_eq`,
`steps_eq`), which gives one equation for each kind of expression (`evaluateAll_filter`,
`evaluateAll_path_cons`, `evaluateAll_path_rooted`, `evaluateAll_step`).
-/
import Grove.Proofs.Eval.Comma
import Grove.Proofs.Eval.Step

namespace Grove

/-! ## Single items -/

namespace Value

variable {f : Forest} {v : Value} {vs : List Value}

theorem outcomes_of_single (h : v.isSequence = false) : v.outcomes f = [.ok v] := by
  cases v with
  | sequence s => simp [isSequence] at h
  | _ => rfl

theorem flatten_of_single (h : v.isSequence = false) : v.flatten f = .ok [v] :=
  flatten_eq_ok_iff.2 (outcomes_of_single h)

/-- Among the items of a value there is no sequence. -/
theorem single_of_flatten (h : v.flatten f = .ok vs) : ∀ item ∈ vs, item.isSequence = false := by
  intro item hitem
  have hsingle := v.single_outcomes f (.ok item)
  rw [flatten_eq_ok_iff.1 h] at hsingle
  exact hsingle (List.mem_map_of_mem hitem)

/-- Items that are collected into a value are its items. -/
theorem flatten_collect (h : ∀ v ∈ vs, v.isSequence = false) : (collect vs).flatten f = .ok vs := by
  have hlist : (ofList vs).flatten f = .ok vs := by
    induction vs with
    | nil => rfl
    | cons v vs ih =>
      obtain ⟨hv, hvs⟩ := List.forall_mem_cons.1 h
      exact flatten_cons.2 ⟨[v], vs, flatten_of_single hv, ih hvs, rfl⟩
  rcases vs with _ | ⟨v, _ | ⟨w, vs⟩⟩
  · exact hlist
  · exact flatten_of_single (h v List.mem_cons_self)
  · exact hlist

end Value

namespace Eval

instance : LawfulMonad Eval := LawfulMonad.mk' Eval
  (fun x => by
    funext f c
    show andThen x give f c = x f c
    unfold andThen
    rcases x f c with ⟨r, c'⟩
    cases r <;> rfl)
  (fun _ _ => rfl)
  (fun x k l => by
    funext f c
    show andThen (andThen x k) l f c = andThen x (fun a => andThen (k a) l) f c
    unfold andThen
    rcases x f c with ⟨r, c'⟩
    cases r <;> rfl)

variable {α β : Type} {x y : Eval Value} {f : Forest} {c : Context} {v : Value} {vs kept : List Value}

theorem bind_of_error {x : Eval α} {e : Error} {c' : Context} (k : α → Eval β)
    (h : x f c = (.error e, c')) : (x >>= k) f c = (.error e, c') := by
  show andThen x k f c = _
  rw [andThen, h]

/-- What goes on alike from the same result comes to the same. -/
theorem bind_congr_at {x y : Eval α} {k l : α → Eval β} (h : x f c = y f c)
    (hk : ∀ a c', y f c = (.ok a, c') → k a f c' = l a f c') : (x >>= k) f c = (y >>= l) f c := by
  rcases hy : y f c with ⟨e | a, c'⟩
  · rw [bind_of_error k (h.trans hy), bind_of_error l hy]
  · rw [bind_of_ok k (h.trans hy), bind_of_ok l hy]
    exact hk a c' hy

/-- What leaves the context as it is hands it on. -/
theorem Local.bind_congr {x y : Eval α} {k l : α → Eval β} (hy : y.Neutral) (h : x f c = y f c)
    (hk : ∀ a, k a f c = l a f c) : (x >>= k) f c = (y >>= l) f c := by
  refine bind_congr_at h fun a c' ha => ?_
  obtain rfl : c = c' := (hy.context_eq f c).symm.trans (congrArg Prod.snd ha)
  exact hk a

theorem bind_eq_ok {x : Eval α} {k : α → Eval β} {b : β} {c' : Context}
    (h : (x >>= k) f c = (.ok b, c')) : ∃ a c₁, x f c = (.ok a, c₁) ∧ k a f c₁ = (.ok b, c') := by
  rcases hx : x f c with ⟨e | a, c₁⟩
  · rw [bind_of_error k hx] at h
    cases congrArg Prod.fst h
  · exact ⟨a, c₁, rfl, (bind_of_ok k hx).symm.trans h⟩

/-! ## Predicates and steps over items -/

/-- Whether a predicate with the given items holds at a position. -/
def itemsHold (c : Caller) (vs : List Value) (position : Nat) : Except Error Bool :=
  match Value.collect vs with
  | .number n => .ok (n == Float.ofNat position)
  | v => c.effectiveBoolean v

theorem predicateHolds_eq (c : Caller) (v : Value) (position : Nat) :
    predicateHolds c v position = (c.flatten v).bind fun vs => itemsHold c vs position := by
  cases v with
  | sequence s =>
    rw [predicateHolds]
    cases c.flatten (.sequence s) <;> rfl
  | _ => rfl

/-- What is asked about a value in focus can be asked about its items. -/
theorem focused_ask_eq (hx : x.Neutral) (focus : Focus) {q : Caller → Value → Except Error α}
    {r : Caller → List Value → Except Error α}
    (hqr : ∀ caller v, q caller v = (caller.flatten v).bind (r caller)) :
    (focused focus x >>= fun v => ask fun caller => q caller v) f c =
      (focused focus (items x) >>= fun vs => ask fun caller => r caller vs) f c := by
  have hleft := hx.focused_eq focus f c
  have hright := hx.items.focused_eq focus f c
  rcases hresult : x f (c.push focus) with ⟨e | v, c'⟩
  · rw [hresult] at hleft
    rw [show items x f (c.push focus) = (.error e, c') from bind_of_error _ hresult] at hright
    rw [bind_of_error _ hleft, bind_of_error _ hright]
  · rw [hresult] at hleft
    rw [show items x f (c.push focus) = (v.flatten f, c') from bind_of_ok _ hresult] at hright
    rw [bind_of_ok _ hleft]
    have hask : ask (fun caller => q caller v) f c = ((v.flatten f).bind (r (c.caller f)), c) :=
      congrArg (·, c) (hqr (c.caller f) v)
    rw [hask]
    cases hflatten : v.flatten f with
    | error e =>
      rw [hflatten] at hright
      rw [bind_of_error _ hright]
      rfl
    | ok vs =>
      rw [hflatten] at hright
      rw [bind_of_ok _ hright]
      rfl

theorem keepFrom_cons (hx : x.Neutral) (size position : Nat) (item : Value) (rest : List Value) :
    keepFrom x size position (item :: rest) = (do
      let vs ← focused ⟨item, position, size⟩ (items x)
      let holds ← ask fun caller => itemsHold caller vs position
      let kept ← keepFrom x size (position + 1) rest
      pure (if holds then item :: kept else kept)) := by
  funext f c
  rw [keepFrom, ← bind_assoc, ← bind_assoc]
  refine bind_congr_at (focused_ask_eq hx _ fun caller v => ?_) fun _ _ _ => rfl
  exact predicateHolds_eq caller v position

theorem stepFrom_cons (hx : x.Neutral) (size position : Nat) (h : NodeHandle) (rest : List NodeHandle) :
    stepFrom x size position (h :: rest) = (do
      let vs ← focused ⟨.node h, position, size⟩ (items x)
      let others ← stepFrom x size (position + 1) rest
      pure (vs ++ others)) := by
  funext f c
  rw [stepFrom, ← bind_assoc]
  refine bind_congr_at ?_ fun _ _ _ => rfl
  rw [focused_ask_eq hx _ (r := fun _ vs => .ok vs) fun caller v => ?_]
  · rw [show (fun vs : List Value => ask fun _ => Except.ok vs) = pure from rfl, bind_pure]
  · cases caller.flatten v <;> rfl

section Congruence

variable (hx : x.Neutral) (hy : y.Neutral)
  (hitems : ∀ focus, items x f { c with focus } = items y f { c with focus })
include hx hy hitems

theorem focused_items_congr (focus : Focus) :
    focused focus (items x) f c = focused focus (items y) f c := by
  rw [hx.items.focused_eq, hy.items.focused_eq]
  exact congrArg (fun r => (r.1, c)) (hitems (focus :: c.focus))

/-- Predicates that come to the same items keep the same. -/
theorem keepFrom_congr (size position : Nat) (vs : List Value) :
    keepFrom x size position vs f c = keepFrom y size position vs f c := by
  induction vs generalizing position with
  | nil => rfl
  | cons item rest ih =>
    rw [keepFrom_cons hx, keepFrom_cons hy]
    refine (hy.items.focused _).bind_congr (focused_items_congr hx hy hitems _) fun items => ?_
    refine (Local.ask _).bind_congr rfl fun holds => ?_
    exact (hy.keepFrom _ _ _).bind_congr (ih _) fun _ => rfl

/-- Steps that come to the same items lead to the same. -/
theorem stepFrom_congr (size position : Nat) (hs : List NodeHandle) :
    stepFrom x size position hs f c = stepFrom y size position hs f c := by
  induction hs generalizing position with
  | nil => rfl
  | cons n rest ih =>
    rw [stepFrom_cons hx, stepFrom_cons hy]
    refine (hy.items.focused _).bind_congr (focused_items_congr hx hy hitems _) fun items => ?_
    exact (hy.stepFrom _ _ _).bind_congr (ih _) fun _ => rfl

end Congruence

theorem slot_append (done rest : Slots) (x : Eval Value) (what : String) :
    slot (done ++ some x :: rest) done.length what = .ok x := by
  simp [slot]

theorem ofExcept_ok (a : α) : ofExcept (.ok a) = pure a := rfl

end Eval

open Eval

namespace Expr

variable {f : Forest} {c : Context} {e : Expr} {es ps : List Expr} {vs : List Value}

/-! ## Predicates and steps one after the other -/

/-- The items for which predicates hold, one predicate after the other. -/
def keepAll : List Expr → List Value → Eval (List Value)
  | [], vs => pure vs
  | p :: ps, vs => do
    let kept ← applyPredicate p.evaluate vs
    keepAll ps kept

/-- The items of steps, each from all nodes of the one before. -/
def stepAll : List Expr → List Value → Eval (List Value)
  | [], vs => pure vs
  | e :: es, vs => do
    let nodes ← ofExcept (asNodes vs)
    let found ← stepFrom e.evaluate nodes.length 1 nodes
    let ordered ← ofExcept (inDocumentOrder found)
    stepAll es ordered

theorem keepAll_append (ps qs : List Expr) (vs : List Value) :
    keepAll (ps ++ qs) vs = keepAll ps vs >>= keepAll qs := by
  induction ps generalizing vs with
  | nil => rfl
  | cons p ps ih => simp only [List.cons_append, keepAll, bind_assoc, ih]

theorem stepAll_append (es es' : List Expr) (vs : List Value) :
    stepAll (es ++ es') vs = stepAll es vs >>= stepAll es' := by
  induction es generalizing vs with
  | nil => rfl
  | cons e es ih => simp only [List.cons_append, stepAll, bind_assoc, ih]

theorem applyPredicates_eq (done : Slots) (ps : List Expr) (vs : List Value) :
    applyPredicates (done ++ evaluateSlots (ps.map some)) (List.range' done.length ps.length) vs =
      keepAll ps vs := by
  induction ps generalizing done vs with
  | nil => rfl
  | cons p ps ih =>
    have hslots : done ++ evaluateSlots ((p :: ps).map some) =
        (done ++ [some p.evaluate]) ++ evaluateSlots (ps.map some) := by
      rw [List.append_assoc]
      rfl
    have hslot : slot (done ++ evaluateSlots ((p :: ps).map some)) done.length "predicate" =
        .ok p.evaluate := slot_append ..
    rw [List.length_cons, List.range'_succ, applyPredicates, keepAll, hslot, ofExcept_ok, pure_bind,
      hslots]
    refine bind_congr fun kept => ?_
    have hrest := ih (done ++ [some p.evaluate]) kept
    rwa [List.length_append, List.length_singleton] at hrest

theorem steps_eq (done : Slots) (es : List Expr) (vs : List Value) :
    steps (done ++ evaluateSlots (es.map some)) (List.range' done.length es.length) vs =
      stepAll es vs := by
  induction es generalizing done vs with
  | nil => rfl
  | cons e es ih =>
    have hslots : done ++ evaluateSlots ((e :: es).map some) =
        (done ++ [some e.evaluate]) ++ evaluateSlots (es.map some) := by
      rw [List.append_assoc]
      rfl
    have hslot : slot (done ++ evaluateSlots ((e :: es).map some)) done.length "path step" =
        .ok e.evaluate := slot_append ..
    rw [List.length_cons, List.range'_succ, steps, stepAll, hslot, ofExcept_ok, pure_bind, hslots]
    refine bind_congr fun nodes => bind_congr fun found => bind_congr fun ordered => ?_
    have hrest := ih (done ++ [some e.evaluate]) ordered
    rwa [List.length_append, List.length_singleton] at hrest

/-! ## What is left is part of what there was -/

theorem sublist_keepFrom {x : Eval Value} {size position : Nat} {kept : List Value} {c' : Context}
    (hx : x.Neutral) (h : keepFrom x size position vs f c = (.ok kept, c')) : kept.Sublist vs := by
  induction vs generalizing position kept c c' with
  | nil =>
    obtain rfl : [] = kept := Except.ok.inj (congrArg Prod.fst h)
    exact .slnil
  | cons item rest ih =>
    rw [keepFrom_cons hx] at h
    obtain ⟨items, c₁, hitems, hrest⟩ := bind_eq_ok h
    obtain ⟨holds, c₂, hholds, hrest⟩ := bind_eq_ok hrest
    obtain ⟨others, c₃, hothers, hkept⟩ := bind_eq_ok hrest
    obtain rfl : (if holds then item :: others else others) = kept :=
      Except.ok.inj (congrArg Prod.fst hkept)
    split
    · exact (ih hothers).cons_cons item
    · exact (ih hothers).cons item

theorem sublist_keepAll {kept : List Value} {c' : Context} (h : keepAll ps vs f c = (.ok kept, c')) :
    kept.Sublist vs := by
  induction ps generalizing vs c with
  | nil =>
    obtain rfl : vs = kept := Except.ok.inj (congrArg Prod.fst h)
    exact .refl _
  | cons p ps ih =>
    obtain ⟨first, c₁, hfirst, h⟩ := bind_eq_ok h
    exact (ih h).trans (sublist_keepFrom p.neutral_evaluate hfirst)

theorem single_stepFrom {x : Eval Value} {size position : Nat} {hs : List NodeHandle} {c' : Context}
    (h : stepFrom x size position hs f c = (.ok vs, c')) :
    ∀ v ∈ vs, v.isSequence = false := by
  induction hs generalizing position vs c c' with
  | nil =>
    obtain rfl : [] = vs := Except.ok.inj (congrArg Prod.fst h)
    simp
  | cons n rest ih =>
    obtain ⟨v, c₁, -, hrest⟩ := bind_eq_ok h
    obtain ⟨items, c₂, hitems, hrest⟩ := bind_eq_ok hrest
    obtain ⟨others, c₃, hothers, hvs⟩ := bind_eq_ok hrest
    obtain rfl : items ++ others = vs := Except.ok.inj (congrArg Prod.fst hvs)
    exact List.forall_mem_append.2 ⟨Value.single_of_flatten (congrArg Prod.fst hitems), ih hothers⟩

theorem single_inDocumentOrder {ordered : List Value} (h : inDocumentOrder vs = .ok ordered)
    (hvs : ∀ v ∈ vs, v.isSequence = false) : ∀ v ∈ ordered, v.isSequence = false := by
  unfold inDocumentOrder at h
  dsimp only at h
  split at h
  · obtain rfl := Except.ok.inj h
    exact hvs
  · split at h
    · obtain rfl := Except.ok.inj h
      exact List.forall_mem_map.2 fun _ _ => rfl
    · cases h

theorem single_stepAll {found : List Value} {c' : Context} (h : stepAll es vs f c = (.ok found, c'))
    (hvs : ∀ v ∈ vs, v.isSequence = false) : ∀ v ∈ found, v.isSequence = false := by
  induction es generalizing vs c with
  | nil =>
    obtain rfl : vs = found := Except.ok.inj (congrArg Prod.fst h)
    exact hvs
  | cons e es ih =>
    obtain ⟨nodes, c₁, -, hrest⟩ := bind_eq_ok h
    obtain ⟨items, c₂, hitems, hrest⟩ := bind_eq_ok hrest
    obtain ⟨ordered, c₃, hordered, hrest⟩ := bind_eq_ok hrest
    have hsingle := single_stepFrom hitems
    exact ih hrest (single_inDocumentOrder (congrArg Prod.fst hordered) hsingle)

/-! ## The items of filters, paths and steps -/

/-- Items that are collected into the value of a computation are its items. -/
theorem items_collect {x : Eval (List Value)}
    (h : ∀ f c vs c', x f c = (.ok vs, c') → ∀ v ∈ vs, v.isSequence = false) :
    items (x >>= fun vs => pure (.collect vs)) = x := by
  funext f c
  rw [items, bind_assoc]
  rcases hx : x f c with ⟨e | vs, c'⟩
  · exact bind_of_error _ hx
  · rw [bind_of_ok _ hx]
    exact congrArg (·, c') (Value.flatten_collect (h f c vs c' hx))

theorem single_evaluateAll {c' : Context} (h : e.evaluateAll f c = (.ok vs, c')) :
    ∀ v ∈ vs, v.isSequence = false := by
  obtain ⟨v, c₁, -, hflatten⟩ := bind_eq_ok h
  exact Value.single_of_flatten (congrArg Prod.fst hflatten)

theorem evaluateAll_filter (b : Expr) (ps : List Expr) :
    (apply .filter ((b :: ps).map some)).evaluateAll = (do
      let vs ← b.evaluateAll
      keepAll ps vs) := by
  have hfilter : (apply .filter ((b :: ps).map some)).evaluate =
      (b.evaluateAll >>= keepAll ps) >>= fun kept => pure (.collect kept) := by
    have hplaces : (List.range (evaluateSlots ((b :: ps).map some)).length).drop 1 =
        List.range' 1 ps.length := by
      simp [length_evaluateSlots, List.range_eq_range', List.range'_succ]
    have hbase : slot (evaluateSlots ((b :: ps).map some)) 0 "filter base" = .ok b.evaluate := rfl
    show Eval.filter (evaluateSlots ((b :: ps).map some)) = _
    rw [Eval.filter, hplaces, hbase, ofExcept_ok, pure_bind, bind_assoc]
    refine bind_congr fun vs => ?_
    rw [← applyPredicates_eq [some b.evaluate] ps]
    rfl
  rw [evaluateAll, hfilter]
  refine items_collect fun f c vs c' h => ?_
  obtain ⟨base, c₁, hbase, hkept⟩ := bind_eq_ok h
  exact fun v hv => single_evaluateAll hbase v ((sublist_keepAll hkept).subset hv)

theorem evaluateAll_path_cons (e : Expr) (es : List Expr) :
    (apply (.path .relative) ((e :: es).map some)).evaluateAll = (do
      let vs ← e.evaluateAll
      stepAll es vs) := by
  have hpath : (apply (.path .relative) ((e :: es).map some)).evaluate =
      (e.evaluateAll >>= stepAll es) >>= fun found => pure (.collect found) := by
    have hplaces : List.range (evaluateSlots ((e :: es).map some)).length =
        0 :: List.range' 1 es.length := by
      simp [length_evaluateSlots, List.range_eq_range', List.range'_succ]
    have hfirst : slot (evaluateSlots ((e :: es).map some)) 0 "path step" = .ok e.evaluate := rfl
    show Eval.path .relative (evaluateSlots ((e :: es).map some)) = _
    rw [Eval.path, hplaces]
    dsimp only
    rw [hfirst, ofExcept_ok, pure_bind, bind_assoc]
    refine bind_congr fun vs => ?_
    rw [← steps_eq [some e.evaluate] es]
    rfl
  rw [evaluateAll, hpath]
  refine items_collect fun f c vs c' h => ?_
  obtain ⟨first, c₁, hfirst, hfound⟩ := bind_eq_ok h
  exact single_stepAll hfound (single_evaluateAll hfirst)

theorem single_nodes (hs : List NodeHandle) : ∀ v ∈ hs.map Value.node, v.isSequence = false :=
  List.forall_mem_map.2 fun _ _ => rfl

theorem single_origin {whole : Bool} {c' : Context} (h : origin whole f c = (.ok vs, c')) :
    ∀ v ∈ vs, v.isSequence = false := by
  obtain ⟨n, c₁, -, hrest⟩ := bind_eq_ok h
  obtain ⟨m, c₂, -, hrest⟩ := bind_eq_ok hrest
  cases whole with
  | false =>
    obtain rfl : [Value.node m.document] = vs := Except.ok.inj (congrArg Prod.fst hrest)
    exact single_nodes [m.document]
  | true =>
    obtain ⟨all, c₃, -, hall⟩ := bind_eq_ok hrest
    obtain rfl : all.map .node = vs := Except.ok.inj (congrArg Prod.fst hall)
    exact single_nodes all

theorem evaluateAll_path_rooted (whole : Bool) (es : List Expr) :
    (apply (.path (if whole then .rootDescendants else .root)) (es.map some)).evaluateAll = (do
      let vs ← origin whole
      stepAll es vs) := by
  have hpath : (apply (.path (if whole then .rootDescendants else .root)) (es.map some)).evaluate =
      (origin whole >>= stepAll es) >>= fun found => pure (.collect found) := by
    have hsteps := steps_eq [] es
    have hlength : (evaluateSlots (es.map some)).length = es.length := by
      rw [length_evaluateSlots, List.length_map]
    rw [List.nil_append, List.length_nil, ← List.range_eq_range', ← hlength] at hsteps
    rw [bind_assoc]
    cases whole <;> exact bind_congr fun vs => by rw [← hsteps]
  rw [evaluateAll, hpath]
  refine items_collect fun f c vs c' h => ?_
  obtain ⟨start, c₁, hstart, hfound⟩ := bind_eq_ok h
  exact single_stepAll hfound (single_origin hstart)

theorem evaluateAll_path_root (es : List Expr) :
    (apply (.path .root) (es.map some)).evaluateAll = (do
      let vs ← origin false
      stepAll es vs) := evaluateAll_path_rooted false es

theorem evaluateAll_path_rootDescendants (es : List Expr) :
    (apply (.path .rootDescendants) (es.map some)).evaluateAll = (do
      let vs ← origin true
      stepAll es vs) := evaluateAll_path_rooted true es

end Expr

/-- The nodes that an axis leads to from the node in focus and that pass a test, the nearest
first. -/
def Eval.reach (axis : Axis) (test : NodeTest) : Eval (List NodeHandle) := do
  let h ← contextNode ("axis step " ++ axis.name ++ " needs a node as context item")
  let m ← ask (·.ownerOf h)
  ofExcept ((candidates axis test m h).mapError Error.ofTree)

theorem Eval.Local.reach (axis : Axis) (test : NodeTest) : Neutral (reach axis test) :=
  (contextNode _).bind fun _ => (Local.ask _).bind fun _ => .ofExcept _

namespace Expr

theorem evaluateAll_step (axis : Axis) (test : NodeTest) (ps : List Expr) :
    (apply (.step axis test) (ps.map some)).evaluateAll = (do
      let found ← reach axis test
      let kept ← keepAll ps (found.map .node)
      pure ((NodeHandle.sort (kept.filterMap (·.asNode?))).map .node)) := by
  have hstep : (apply (.step axis test) (ps.map some)).evaluate =
      (do
        let found ← reach axis test
        let kept ← keepAll ps (found.map .node)
        pure ((NodeHandle.sort (kept.filterMap (·.asNode?))).map .node)) >>= fun found =>
          pure (.collect found) := by
    have hkeep := applyPredicates_eq [] ps
    have hlength : (evaluateSlots (ps.map some)).length = ps.length := by
      rw [length_evaluateSlots, List.length_map]
    rw [List.nil_append, List.length_nil, ← List.range_eq_range', ← hlength] at hkeep
    show Eval.step axis test (evaluateSlots (ps.map some)) = _
    simp only [Eval.step, reach, bind_assoc, pure_bind, hkeep]
  rw [evaluateAll, hstep]
  refine items_collect fun f c vs c' h => ?_
  obtain ⟨found, c₁, -, hrest⟩ := bind_eq_ok h
  obtain ⟨kept, c₂, -, hvs⟩ := bind_eq_ok hrest
  obtain rfl := Except.ok.inj (congrArg Prod.fst hvs)
  exact single_nodes _

end Expr

end Grove

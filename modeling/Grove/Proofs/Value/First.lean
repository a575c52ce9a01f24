/-
The first item of a value. `first?` looks at the first of listed items alone, so an
empty sequence listed in front hides all items behind it (`Value.Hides`). Otherwise
the first item is the head of the list of all items.
-/
import Grove.Eval.Evaluate
import Grove.Proofs.Number.Count
import Grove.Proofs.Value.Outcomes

namespace Grove

mutual

/-- Whether an empty sequence in front hides the items behind it. -/
def Value.Hides (f : Forest) : Value → Prop
  | .sequence s => s.Hides f
  | _ => False
  termination_by structural v => v

def Sequence.Hides (f : Forest) : Sequence → Prop
  | .list items => HidesAmong f items
  | .cached inner => inner.Hides f
  | _ => False
  termination_by structural s => s

def HidesAmong (f : Forest) : List Value → Prop
  | [] => False
  | v :: vs => v.Hides f ∨ v.flatten f = .ok [] ∧ (Value.ofList vs).flatten f ≠ .ok []
  termination_by structural vs => vs

end

namespace Value

variable {f : Forest} {v : Value} {xs : List Value}

/-- A walk that stops at once comes to the head of the list. -/
theorem firstOfWalk_eq_head? (xs : List Value) :
    firstOfWalk (xs.foldlM (fun (_ : Unit) item => .error (.decided item)) ()) = .ok xs.head? := by
  cases xs <;> rfl

/-- What a first item has to do with the list of all items: it is there, it is the head
of the list if there is any, and it is missing only if it is hidden. -/
structure Leads (first : Except Error (Option Value)) (hides : Prop) (xs : List Value) : Prop where
  answer : first = .ok none ∨ first = .ok xs.head?
  agrees : first = .ok xs.head? ↔ ¬hides

theorem Leads.of_head? (xs : List Value) : Leads (.ok xs.head?) False xs :=
  ⟨.inr rfl, by simp⟩

theorem Leads.walk (h : v.flatten f = .ok xs) : Leads (firstOfWalk
    (v.foldItems f .failed (fun (_ : Unit) item => .error (.decided item)) ())) False xs := by
  rw [foldItems_eq_foldlM h, firstOfWalk_eq_head?]
  exact .of_head? xs

theorem Leads.item (h : v.flatten f = .ok xs) (hitem : v.flatten f = .ok [v]) :
    Leads (.ok (some v)) False xs := by
  obtain rfl : [v] = xs := by simpa [hitem] using h
  exact .of_head? [v]

theorem Leads.range {first last : Int64}
    (h : (Value.sequence (.range first last)).flatten f = .ok xs) :
    Leads ((Sequence.range first last).first? f) False xs := by
  suffices heq : (Sequence.range first last).first? f = firstOfWalk ((Value.sequence (.range first
      last)).foldItems f .failed (fun (_ : Unit) item => .error (.decided item)) ()) by
    rw [heq]
    exact .walk h
  simp only [Value.foldItems, Sequence.foldItems, Sequence.first?]
  have hle : first ≤ last ↔ rangeSize first last ≠ 0 := by
    rw [Int64.le_iff_toInt_le, rangeSize]
    omega
  cases hsize : rangeSize first last with
  | zero => simp [hle, hsize, foldRange, firstOfWalk]
  | succ count => simp [hle, hsize, foldRange, firstOfWalk]

/-- An empty sequence in front of nothing hides nothing. -/
theorem Leads.cons {v : Value} {vs ys zs : List Value} (hv : Leads (v.first? f) (v.Hides f) ys)
    (hys : v.flatten f = .ok ys) (hzs : (ofList vs).flatten f = .ok zs) :
    Leads (v.first? f) (HidesAmong f (v :: vs)) (ys ++ zs) := by
  have hagrees := hv.agrees
  cases ys with
  | nil =>
    have hnone : v.first? f = .ok none := hv.answer.elim id id
    have hhides : ¬v.Hides f := hagrees.1 hnone
    refine ⟨.inl hnone, ?_⟩
    rw [hnone, HidesAmong, hys, hzs]
    cases zs <;> simp [hhides]
  | cons y ys =>
    refine ⟨by simpa using hv.answer, ?_⟩
    rw [HidesAmong, hys]
    simpa using hagrees

end Value

mutual

theorem Value.leads_first? (f : Forest) : ∀ (v : Value) (xs : List Value), v.flatten f = .ok xs →
    Value.Leads (v.first? f) (v.Hides f) xs
  | .sequence s, xs, h => s.leads_first? f xs h
  | .string _, _, h => .item h rfl
  | .number _, _, h => .item h rfl
  | .boolean _, _, h => .item h rfl
  | .node _, _, h => .item h rfl
  termination_by structural v => v

theorem Sequence.leads_first? (f : Forest) : ∀ (s : Sequence) (xs : List Value),
    (Value.sequence s).flatten f = .ok xs → Value.Leads (s.first? f) (s.Hides f) xs
  | .list items, xs, h => leads_firstOfList f items xs h
  | .range _ _, _, h => .range h
  | .cached inner, xs, h => inner.leads_first? f xs h
  | .evaluated _ _, _, h => Value.Leads.walk h
  | .nodes _, _, h => Value.Leads.walk h
  termination_by structural s => s

theorem leads_firstOfList (f : Forest) : ∀ (vs xs : List Value),
    (Value.ofList vs).flatten f = .ok xs → Value.Leads (firstOfList f vs) (HidesAmong f vs) xs
  | [], xs, h => by
    have hnil : (Value.ofList []).flatten f = .ok [] := rfl
    obtain rfl : [] = xs := by simpa [hnil] using h
    exact .of_head? []
  | v :: vs, xs, h => by
    obtain ⟨ys, zs, hys, hzs, rfl⟩ := Value.flatten_cons.1 h
    exact .cons (v.leads_first? f ys hys) hys hzs
  termination_by structural vs => vs

end

/-! ## Expressions and functions -/

namespace Expr

variable {e : Expr} {f : Forest} {c : Context} {v : Value} {xs : List Value}

theorem evaluateAll_eq_ok (h : (e.evaluateAll f c).1 = .ok xs) :
    ∃ v, (e.evaluate f c).1 = .ok v ∧ v.flatten f = .ok xs := by
  change (Eval.andThen e.evaluate _ f c).1 = _ at h
  rw [Eval.andThen] at h
  split at h
  next v _ hv => exact ⟨v, by rw [hv], h⟩
  next => simp at h

theorem evaluateFirst_of_ok (h : (e.evaluate f c).1 = .ok v) :
    (e.evaluateFirst f c).1 = v.first? f := by
  change (Eval.andThen e.evaluate _ f c).1 = _
  rw [Eval.andThen]
  split
  next v' _ hv =>
    obtain rfl : v' = v := by simpa [hv] using h
    rfl
  next hv => simp [hv] at h

end Expr

/-- What a built-in function answers where it is called. -/
def Library.answer (s : CallSite) (name : String) (args : List Value) : Except Error Value :=
  match registry.resolve (.function name) args.length none with
  | .ok run => run s args
  | .error e => .error e.toError

namespace Library

variable {s : CallSite} {v : Value} {first : Option Value} {xs : List Value}

-- the registry is worked out entry by entry
set_option maxRecDepth 20000

theorem answer_count (h : s.caller.flatten v = .ok xs) :
    answer s "count" [v] = .ok (ofCount xs.length) := by
  have hrun : answer s "count" [v] = (s.caller.flatten v).bind fun xs => .ok (ofCount xs.length) := rfl
  rw [hrun, h]
  rfl

theorem answer_empty (h : s.caller.first? v = .ok first) :
    answer s "empty" [v] = .ok (.boolean first.isNone) := by
  have hrun : answer s "empty" [v] = (s.caller.first? v).bind fun first => .ok (.boolean first.isNone) :=
    rfl
  rw [hrun, h]
  rfl

theorem answer_exists (h : s.caller.first? v = .ok first) :
    answer s "exists" [v] = .ok (.boolean first.isSome) := by
  have hrun : answer s "exists" [v] = (s.caller.first? v).bind fun first => .ok (.boolean first.isSome) :=
    rfl
  rw [hrun, h]
  rfl

end Library

theorem Library.ofCount_eq_zero_iff {n : Nat} : ofCount n = .number 0 ↔ n = 0 := by
  rw [ofCount, Value.number.injEq]
  exact Number.ofNat_eq_zero_iff

namespace Value

/-- Asked for the first item, an expression answers, and with the head of the list of
its items unless its value hides it; and the functions that tell whether a value has
items agree with the number of its items on the values that hide nothing. -/
theorem first_item_agrees_unless_hidden (e : Expr) (f : Forest) (c : Context) (site : CallSite)
    (v : Value) (xs : List Value) :
    ((e.evaluateAll f c).1 = .ok xs →
      ∃ value first, (e.evaluate f c).1 = .ok value ∧ (e.evaluateFirst f c).1 = .ok first ∧
        (first = xs.head? ↔ ¬value.Hides f)) ∧
    (site.caller.flatten v = .ok xs →
      ∃ count isEmpty isThere, Library.answer site "count" [v] = .ok count ∧
        Library.answer site "empty" [v] = .ok (.boolean isEmpty) ∧
        Library.answer site "exists" [v] = .ok (.boolean isThere) ∧
        ((isEmpty = true ∧ isThere = false ↔ count = .number 0) ↔ ¬v.Hides site.forest)) := by
  constructor
  · intro hall
    obtain ⟨v, hv, hflatten⟩ := Expr.evaluateAll_eq_ok hall
    obtain ⟨hanswer, hagrees⟩ := v.leads_first? f xs hflatten
    obtain ⟨first, hfirst⟩ : ∃ first, v.first? f = .ok first := by
      rcases hanswer with h | h <;> exact ⟨_, h⟩
    refine ⟨v, first, hv, ?_, ?_⟩
    · rw [Expr.evaluateFirst_of_ok hv, hfirst]
    · rw [← hagrees, hfirst, Except.ok.injEq]
  · intro hflatten
    obtain ⟨hanswer, hagrees⟩ := v.leads_first? site.forest xs hflatten
    obtain ⟨first, hfirst⟩ : ∃ first, site.caller.first? v = .ok first := by
      rcases hanswer with h | h <;> exact ⟨_, h⟩
    refine ⟨_, _, _, Library.answer_count hflatten, Library.answer_empty hfirst,
      Library.answer_exists hfirst, ?_⟩
    replace hfirst : v.first? site.forest = .ok first := hfirst
    rw [Library.ofCount_eq_zero_iff, ← hagrees, hfirst, Except.ok.injEq]
    rw [hfirst, Except.ok.injEq, Except.ok.injEq] at hanswer
    rcases hanswer with rfl | rfl <;> cases xs <;> simp

/-- A context with a variable `v`. -/
def holding (v : Value) : Context := Context.standard.withVariable ⟨none, "v"⟩ v

/-- A number, in sequences that are followed by empty ones. -/
theorem first_item_agrees_unless_hidden_behind :
    let v : Value := ofList [ofList [.number 1, .empty], .empty]
    let e : Expr := .varRef (.plain "v")
    (∃ value first, (e.evaluate default (holding v)).1 = .ok value ∧
      (e.evaluateFirst default (holding v)).1 = .ok first ∧
      (first = some (.number 1) ↔ ¬value.Hides default)) ∧
    ∃ count isEmpty isThere, Library.answer ((holding v).site default) "count" [v] = .ok count ∧
      Library.answer ((holding v).site default) "empty" [v] = .ok (.boolean isEmpty) ∧
      Library.answer ((holding v).site default) "exists" [v] = .ok (.boolean isThere) ∧
      ((isEmpty = true ∧ isThere = false ↔ count = .number 0) ↔ ¬v.Hides default) := by
  intro v e
  have hagrees := first_item_agrees_unless_hidden e default (holding v)
    ((holding v).site default) v [.number 1]
  exact ⟨hagrees.1 rfl, hagrees.2 rfl⟩

/-- An empty sequence in front of a number hides it. -/
theorem first_item_hidden :
    let v : Value := ofList [.empty, .number 1]
    let e : Expr := .varRef (.plain "v")
    (e.evaluateAll default (holding v)).1 = .ok [.number 1] ∧
    (e.evaluateFirst default (holding v)).1 = .ok none ∧
    Library.answer ((holding v).site default) "count" [v] = .ok (.number 1) ∧
    Library.answer ((holding v).site default) "empty" [v] = .ok (.boolean true) ∧
    Library.answer ((holding v).site default) "exists" [v] = .ok (.boolean false) := by
  intro v e
  have hitems : ((holding v).site default).caller.flatten v = .ok [.number 1] := rfl
  have hfirst : ((holding v).site default).caller.first? v = .ok none := rfl
  exact ⟨rfl, rfl, Library.answer_count hitems, Library.answer_empty hfirst,
    Library.answer_exists hfirst⟩

end Value

end Grove

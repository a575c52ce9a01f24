/-
Which function a call means. A registry is the history of what was registered (`Registry.ofHistory`),
and a name means the best of the overloads registered under it that accept the number of arguments
(`Overload.Best`); the overloads of the name in the default namespace are asked only if there is none
(`Registry.resolve_best`).

The registry keeps the overloads of a name sorted and takes the first that accepts. An overload that
is put in changes that choice only if it accepts itself and is to be tried before the old one
(`Overload.find?_insertInto`), so the choice is the best overload of the history so far, the earliest
of equal ones, by induction on the history. Where no two overloads are equal they can be sorted in
one way only, and the order of the registrations does not matter.
-/
import Mathlib.Data.List.Induction
import Mathlib.Data.List.Nodup
import Mathlib.Data.List.Sort
import Grove.Eval.Library

namespace Grove

/-! ## Choosing an overload -/

namespace Overload

variable {os os' : List Overload} {o p q : Overload} {n : Nat}

/-- The numbers of arguments an overload accepts. -/
def range (o : Overload) : Nat × Nat := (o.minArity, o.bound)

theorem before_iff : o.before p = true ↔
    p.minArity < o.minArity ∨ o.minArity = p.minArity ∧ o.bound < p.bound := by
  simp [before]

theorem before_asymm (h : o.before p = true) : p.before o = false := by
  rw [Bool.eq_false_iff, ne_eq, before_iff]
  rw [before_iff] at h
  omega

theorem before_of_before (h : o.before p = true) (hnot : q.before p = false) : o.before q = true := by
  rw [Bool.eq_false_iff, ne_eq, before_iff] at hnot
  rw [before_iff] at h ⊢
  omega

theorem range_eq_of_not_before (h : o.before p = false) (h' : p.before o = false) :
    o.range = p.range := by
  rw [Bool.eq_false_iff, ne_eq, before_iff] at h h'
  exact Prod.ext (by simp only [range]; omega) (by simp only [range]; omega)

/-- The overload with the greatest least number of arguments of those that accept a number of
arguments, among these one with the least bound, and among these the earliest. -/
structure Best (os : List Overload) (n : Nat) (o : Overload) : Prop where
  accepts : o.accepts n = true
  greatest : ∀ p ∈ os, p.accepts n = true → p.minArity ≤ o.minArity
  least : ∀ p ∈ os, p.accepts n = true → p.minArity = o.minArity → o.bound ≤ p.bound
  earliest : ∃ earlier later, os = earlier ++ o :: later ∧
    ∀ p ∈ earlier, p.accepts n = true → p.range ≠ o.range

theorem Best.mem (h : Best os n o) : o ∈ os := by
  obtain ⟨earlier, later, rfl, -⟩ := h.earliest
  exact List.mem_append_right _ List.mem_cons_self

theorem Best.range_eq (h : Best os n o) (h' : Best os n p) : o.range = p.range := by
  have hmin := Nat.le_antisymm (h'.greatest o h.mem h.accepts) (h.greatest p h'.mem h'.accepts)
  have hbound := Nat.le_antisymm (h.least p h'.mem h'.accepts hmin.symm)
    (h'.least o h.mem h.accepts hmin)
  exact Prod.ext hmin hbound

theorem Best.unique (h : Best os n o) (h' : Best os n p) : o = p := by
  obtain ⟨earlier, later, hos, hearlier⟩ := h.earliest
  obtain ⟨earlier', later', hos', hearlier'⟩ := h'.earliest
  -- if they stood at different places, the later one would have an equal one before it
  rcases List.append_eq_append_iff.1 (hos.symm.trans hos') with ⟨rest, rfl, hrest⟩ | ⟨rest, rfl, hrest⟩
  · cases rest with
    | nil => exact (List.cons.inj hrest).1
    | cons q rest =>
      obtain rfl := (List.cons.inj hrest).1
      exact absurd (h.range_eq h') (hearlier' o (by simp) h.accepts)
  · cases rest with
    | nil => exact (List.cons.inj hrest).1.symm
    | cons q rest =>
      obtain rfl := (List.cons.inj hrest).1
      exact absurd (h'.range_eq h) (hearlier p (by simp) h'.accepts)

/-- What is registered later wins only if it is to be tried before. -/
theorem Best.append_of_not (h : Best os n p) (hnot : ¬(o.accepts n = true ∧ o.before p = true)) :
    Best (os ++ [o]) n p := by
  have hlater (haccepts : o.accepts n = true) : ¬o.before p = true := fun hbefore =>
    hnot ⟨haccepts, hbefore⟩
  rw [before_iff] at hlater
  obtain ⟨earlier, later, rfl, hearlier⟩ := h.earliest
  refine ⟨h.accepts, fun q hq haccepts => ?_, fun q hq haccepts hmin => ?_,
    earlier, later ++ [o], by simp, hearlier⟩
  · rcases List.mem_append.1 hq with hq | hq
    · exact h.greatest q hq haccepts
    · obtain rfl := List.mem_singleton.1 hq
      have := hlater haccepts
      omega
  · rcases List.mem_append.1 hq with hq | hq
    · exact h.least q hq haccepts hmin
    · obtain rfl := List.mem_singleton.1 hq
      have := hlater haccepts
      omega

theorem Best.append_of_before (h : Best os n p) (haccepts : o.accepts n = true)
    (hbefore : o.before p = true) : Best (os ++ [o]) n o := by
  rw [before_iff] at hbefore
  refine ⟨haccepts, fun q hq hq' => ?_, fun q hq hq' hmin => ?_, os, [], rfl, fun q hq hq' hrange => ?_⟩
  · rcases List.mem_append.1 hq with hq | hq
    · have := h.greatest q hq hq'
      omega
    · exact (List.mem_singleton.1 hq ▸ le_refl _)
  · rcases List.mem_append.1 hq with hq | hq
    · have := h.greatest q hq hq'
      have := h.least q hq hq'
      omega
    · exact (List.mem_singleton.1 hq ▸ le_refl _)
  · obtain ⟨hmin, hbound⟩ := Prod.mk.inj hrange
    have := h.greatest q hq hq'
    have := h.least q hq hq'
    omega

theorem best_append_of_none (hnone : ∀ p ∈ os, ¬p.accepts n = true) (haccepts : o.accepts n = true) :
    Best (os ++ [o]) n o := by
  have honly : ∀ q ∈ os ++ [o], q.accepts n = true → q = o := fun q hq hq' =>
    (List.mem_append.1 hq).elim (fun hq => absurd hq' (hnone q hq)) List.mem_singleton.1
  exact ⟨haccepts, fun q hq hq' => honly q hq hq' ▸ le_refl _, fun q hq hq' _ => honly q hq hq' ▸ le_refl _,
    os, [], rfl, fun q hq hq' => absurd hq' (hnone q hq)⟩

/-! ## The order in which overloads are tried -/

/-- No overload is to be tried before an earlier one. -/
def Sorted (os : List Overload) : Prop := os.Pairwise fun a b => b.before a = false

/-- The overloads of a history in the order in which they are tried. -/
def tried (os : List Overload) : List Overload := os.foldl (fun tried o => o.insertInto tried) []

theorem tried_append (os : List Overload) (o : Overload) : tried (os ++ [o]) = o.insertInto (tried os) :=
  List.foldl_append

theorem perm_insertInto (o : Overload) (os : List Overload) : (o.insertInto os).Perm (o :: os) := by
  induction os with
  | nil => exact .refl _
  | cons p rest ih =>
    rw [insertInto]
    split
    · exact .refl _
    · exact (ih.cons p).trans (.swap o p rest)

theorem Sorted.insertInto (h : Sorted os) (o : Overload) : Sorted (o.insertInto os) := by
  induction os with
  | nil => exact List.pairwise_singleton ..
  | cons p rest ih =>
    obtain ⟨hp, hrest⟩ := List.pairwise_cons.1 h
    rw [Overload.insertInto]
    split
    next hbefore =>
      refine List.pairwise_cons.2 ⟨fun q hq => before_asymm ?_, h⟩
      rcases List.mem_cons.1 hq with rfl | hq
      · exact hbefore
      · exact before_of_before hbefore (hp q hq)
    next hbefore =>
      refine List.pairwise_cons.2 ⟨fun q hq => ?_, ih hrest⟩
      rcases List.mem_cons.1 ((perm_insertInto o rest).subset hq) with rfl | hq
      · exact Bool.eq_false_iff.2 hbefore
      · exact hp q hq

theorem perm_tried (os : List Overload) : (tried os).Perm os := by
  induction os using List.reverseRecOn with
  | nil => exact .refl _
  | append_singleton os o ih =>
    rw [tried_append]
    exact (perm_insertInto o _).trans ((ih.cons o).trans (List.perm_append_singleton o os).symm)

theorem sorted_tried (os : List Overload) : Sorted (tried os) := by
  induction os using List.reverseRecOn with
  | nil => exact .nil
  | append_singleton os o ih =>
    rw [tried_append]
    exact ih.insertInto o

/-- Overloads that differ in what they accept are tried in the same order, whatever their history. -/
theorem tried_eq_of_perm (h : os.Perm os') (hdistinct : (os.map range).Nodup) : tried os = tried os' := by
  have hperm : (tried os).Perm (tried os') := (perm_tried os).trans (h.trans (perm_tried os').symm)
  refine hperm.eq_of_pairwise (fun o p ho hp hop hpo => ?_) (sorted_tried os) (sorted_tried os')
  exact List.inj_on_of_nodup_map hdistinct ((perm_tried os).subset ho)
    ((perm_tried os).subset (hperm.symm.subset hp)) (range_eq_of_not_before hpo hop)

/-- An overload that is put in is chosen if it accepts and is to be tried before the one that was
chosen. -/
theorem find?_insertInto (h : Sorted os) (o : Overload) (n : Nat) :
    (o.insertInto os).find? (·.accepts n) = match os.find? (·.accepts n) with
      | none => if o.accepts n then some o else none
      | some p => if o.accepts n && o.before p then some o else some p := by
  induction os with
  | nil => cases haccepts : o.accepts n <;> simp [insertInto, haccepts]
  | cons p rest ih =>
    obtain ⟨hp, hrest⟩ := List.pairwise_cons.1 h
    rw [insertInto]
    split
    next hbefore =>
      cases haccepts : o.accepts n with
      | false => cases hfind : (p :: rest).find? (·.accepts n) <;> simp [haccepts, hfind]
      | true =>
        -- it is before all that come after the one it was put before
        have hall : ∀ q ∈ p :: rest, o.before q = true := List.forall_mem_cons.2
          ⟨hbefore, fun q hq => before_of_before hbefore (hp q hq)⟩
        cases hfind : (p :: rest).find? (·.accepts n) with
        | none => simp [haccepts]
        | some q => simp [haccepts, hall q (List.mem_of_find?_eq_some hfind)]
    next hbefore =>
      cases haccepts : p.accepts n with
      | true => simp [haccepts, hbefore]
      | false => simpa [haccepts] using ih hrest

/-- The first overload that accepts of those that are tried is the best of the history. -/
theorem find?_tried (os : List Overload) (n : Nat) :
    ((∀ o ∈ os, ¬o.accepts n = true) ∧ (tried os).find? (·.accepts n) = none) ∨
      ∃ o, Best os n o ∧ (tried os).find? (·.accepts n) = some o := by
  induction os using List.reverseRecOn with
  | nil => exact .inl ⟨List.forall_mem_nil _, rfl⟩
  | append_singleton os o ih =>
    rw [tried_append, find?_insertInto (sorted_tried os)]
    rcases ih with ⟨hnone, hfind⟩ | ⟨p, hbest, hfind⟩
    · rw [hfind]
      by_cases haccepts : o.accepts n = true
      · exact .inr ⟨o, best_append_of_none hnone haccepts, if_pos haccepts⟩
      · refine .inl ⟨List.forall_mem_append.2 ⟨hnone, ?_⟩, if_neg haccepts⟩
        exact List.forall_mem_singleton.2 haccepts
    · rw [hfind]
      by_cases hwins : o.accepts n = true ∧ o.before p = true
      · exact .inr ⟨o, hbest.append_of_before hwins.1 hwins.2, if_pos (by simpa using hwins)⟩
      · exact .inr ⟨p, hbest.append_of_not hwins, if_neg (by simpa using hwins)⟩

end Overload

/-! ## Registries -/

/-- A function that is registered under a name. -/
structure Registration where
  name : ExpandedName
  overload : Overload

namespace FunctionRegistry

open Overload (Best tried tried_append tried_eq_of_perm)

variable {history history' : List Registration} {name : ExpandedName} {n : Nat} {ns : Option String}

/-- The registry of what was registered, one after the other. -/
def ofHistory (history : List Registration) : FunctionRegistry :=
  history.foldl (fun r g => r.register g.name g.overload.minArity g.overload.maxArity g.overload.run)
    .empty

/-- The overloads registered under a name. -/
def overloadsOf (history : List Registration) (name : ExpandedName) : List Overload :=
  (history.filter (·.name = name)).map (·.overload)

/-- The overloads that a name without namespace may mean in the default namespace. -/
def defaultsOf (history : List Registration) (name : ExpandedName) (ns : Option String) :
    List Overload :=
  match name.namespaceUri, ns with
  | none, some uri => overloadsOf history ⟨some uri, name.localName⟩
  | _, _ => []

theorem get?_register (r : FunctionRegistry) (g : Registration) (name : ExpandedName) :
    Table.get? (r.register g.name g.overload.minArity g.overload.maxArity g.overload.run) name =
      if name = g.name then some (g.overload.insertInto ((Table.get? r g.name).getD []))
      else Table.get? r name := Table.get?_insert ..

theorem ofHistory_append (history : List Registration) (g : Registration) :
    ofHistory (history ++ [g]) =
      (ofHistory history).register g.name g.overload.minArity g.overload.maxArity g.overload.run :=
  List.foldl_append

theorem overloadsOf_append (history : List Registration) (g : Registration) (name : ExpandedName) :
    overloadsOf (history ++ [g]) name =
      overloadsOf history name ++ if g.name = name then [g.overload] else [] := by
  rw [overloadsOf, List.filter_append, List.map_append, overloadsOf]
  split <;> simp [*]

/-- A registry has the overloads of a name in the order in which they are tried. -/
theorem get?_ofHistory (history : List Registration) (name : ExpandedName) :
    Table.get? (ofHistory history) name =
      if overloadsOf history name = [] then none else some (tried (overloadsOf history name)) := by
  induction history using List.reverseRecOn generalizing name with
  | nil => rfl
  | append_singleton history g ih =>
    rw [ofHistory_append, overloadsOf_append, get?_register]
    by_cases hname : name = g.name
    · have hold : (Table.get? (ofHistory history) g.name).getD [] = tried (overloadsOf history g.name) := by
        rw [ih]
        split
        next hnone => rw [hnone]; rfl
        next => rfl
      subst hname
      rw [if_pos rfl, if_pos rfl, tried_append, hold, if_neg (by simp)]
    · rw [if_neg hname, if_neg (Ne.symm hname), List.append_nil]
      exact ih name

theorem getD_get?_ofHistory (history : List Registration) (name : ExpandedName) :
    (Table.get? (ofHistory history) name).getD [] = tried (overloadsOf history name) := by
  rw [get?_ofHistory]
  split
  next hnone => rw [hnone]; rfl
  next => rfl

/-- The name that is looked up in the end is the name itself, with no defaults, or the one of the
defaults. -/
theorem effectiveName_cases (history : List Registration) (name : ExpandedName) (ns : Option String) :
    (effectiveName name ns = name ∧ defaultsOf history name ns = []) ∨
      defaultsOf history name ns = overloadsOf history (effectiveName name ns) := by
  obtain ⟨_ | uri, localName⟩ := name
  · cases ns with
    | none => exact .inl ⟨rfl, rfl⟩
    | some uri => exact .inr rfl
  · exact .inl ⟨rfl, rfl⟩

/-- The overloads that are looked at when none of those given accepts. -/
theorem candidates_eq (history : List Registration) (name : ExpandedName) (ns : Option String) :
    (Table.get? (ofHistory history) (effectiveName name ns)).or (Table.get? (ofHistory history) name) =
      if overloadsOf history name = [] ∧ defaultsOf history name ns = [] then none
      else some (tried (if defaultsOf history name ns = [] then overloadsOf history name
        else defaultsOf history name ns)) := by
  rcases effectiveName_cases history name ns with ⟨heffective, hdefault⟩ | hdefault
  · rw [heffective, hdefault, get?_ofHistory, Option.or_self]
    simp
  · rw [hdefault, get?_ofHistory, get?_ofHistory]
    by_cases hnone : overloadsOf history (effectiveName name ns) = [] <;> simp [hnone]

/-- What is resolved in terms of what was registered. -/
theorem resolve_ofHistory (history : List Registration) (name : ExpandedName) (n : Nat)
    (ns : Option String) : (ofHistory history).resolve name n ns =
      match (tried (overloadsOf history name)).find? (·.accepts n) with
      | some o => .ok o.run
      | none =>
        match (tried (defaultsOf history name ns)).find? (·.accepts n) with
        | some o => .ok o.run
        | none =>
          if overloadsOf history name = [] ∧ defaultsOf history name ns = [] then
            .error (.unknown (effectiveName name ns))
          else .error (.wrongArity (effectiveName name ns)
            ((tried (if defaultsOf history name ns = [] then overloadsOf history name
              else defaultsOf history name ns)).flatMap (·.arities)).mergeSort.eraseReps) := by
  rw [resolve, getD_get?_ofHistory]
  dsimp only
  rw [candidates_eq]
  cases hgiven : (tried (overloadsOf history name)).find? (·.accepts n) with
  | some o => rfl
  | none =>
    dsimp only
    by_cases hnone : overloadsOf history name = [] ∧ defaultsOf history name ns = []
    · rw [if_pos hnone, if_pos hnone, hnone.2]
      rfl
    · rw [if_neg hnone, if_neg hnone]
      dsimp only
      by_cases hdefault : defaultsOf history name ns = []
      · rw [if_pos hdefault, hdefault, hgiven]
        rfl
      · cases hfind : (tried (defaultsOf history name ns)).find? (·.accepts n) with
        | some o => rw [if_neg hdefault, hfind]
        | none => rw [if_neg hdefault, hfind]

theorem overloadsOf_perm (h : history.Perm history') (name : ExpandedName) :
    (overloadsOf history name).Perm (overloadsOf history' name) :=
  (h.filter _).map _

theorem defaultsOf_perm (h : history.Perm history') (name : ExpandedName) (ns : Option String) :
    (defaultsOf history name ns).Perm (defaultsOf history' name ns) := by
  unfold defaultsOf
  split
  · exact overloadsOf_perm h _
  · exact .refl _

theorem resolve_of_perm (h : history.Perm history')
    (hgiven : ((overloadsOf history name).map Overload.range).Nodup)
    (hdefault : ((defaultsOf history name ns).map Overload.range).Nodup) :
    (ofHistory history').resolve name n ns = (ofHistory history).resolve name n ns := by
  -- the list of what a wrong number of arguments is told of is sorted too, so it stays the same
  have hempty {os os' : List Overload} (h : os.Perm os') : os' = [] ↔ os = [] :=
    ⟨fun heq => (heq ▸ h).eq_nil, fun heq => (heq ▸ h.symm).eq_nil⟩
  have htried : tried (if defaultsOf history' name ns = [] then overloadsOf history' name
      else defaultsOf history' name ns) =
      tried (if defaultsOf history name ns = [] then overloadsOf history name
        else defaultsOf history name ns) := by
    simp only [hempty (defaultsOf_perm h name ns)]
    split
    · exact (tried_eq_of_perm (overloadsOf_perm h name) hgiven).symm
    · exact (tried_eq_of_perm (defaultsOf_perm h name ns) hdefault).symm
  rw [resolve_ofHistory, resolve_ofHistory, htried,
    ← tried_eq_of_perm (overloadsOf_perm h name) hgiven,
    ← tried_eq_of_perm (defaultsOf_perm h name ns) hdefault]
  simp only [hempty (overloadsOf_perm h name), hempty (defaultsOf_perm h name ns)]

/-- The overload that a call means: the best one of the name as it is given, and if none of these
accepts the number of arguments, the best one of the name in the default namespace. -/
inductive Means (history : List Registration) (name : ExpandedName) (ns : Option String) (n : Nat) :
    Overload → Prop
  | given {o} (h : Best (overloadsOf history name) n o) : Means history name ns n o
  | default {o} (hnone : ∀ p ∈ overloadsOf history name, ¬p.accepts n = true)
      (h : Best (defaultsOf history name ns) n o) : Means history name ns n o

theorem Means.unique {o p : Overload} (h : Means history name ns n o) (h' : Means history name ns n p) :
    o = p := by
  cases h with
  | given h =>
    cases h' with
    | given h' => exact h.unique h'
    | default hnone _ => exact absurd h.accepts (hnone o h.mem)
  | default hnone h =>
    cases h' with
    | given h' => exact absurd h'.accepts (hnone p h'.mem)
    | default _ h' => exact h.unique h'

theorem Means.registered {o : Overload} (h : Means history name ns n o) :
    ¬(overloadsOf history name = [] ∧ defaultsOf history name ns = []) := by
  rintro ⟨hgiven, hdefault⟩
  cases h with
  | given h => exact List.ne_nil_of_mem h.mem hgiven
  | default _ h => exact List.ne_nil_of_mem h.mem hdefault

/-- How a call can be resolved. -/
theorem resolve_cases (history : List Registration) (name : ExpandedName) (n : Nat)
    (ns : Option String) :
    (∃ o, Means history name ns n o ∧ (ofHistory history).resolve name n ns = .ok o.run) ∨
    (∀ o, ¬Means history name ns n o) ∧
      ((overloadsOf history name = [] ∧ defaultsOf history name ns = []) ∧
          (ofHistory history).resolve name n ns = .error (.unknown (effectiveName name ns)) ∨
        ¬(overloadsOf history name = [] ∧ defaultsOf history name ns = []) ∧
          ∃ available, (ofHistory history).resolve name n ns =
            .error (.wrongArity (effectiveName name ns) available)) := by
  rw [resolve_ofHistory]
  rcases Overload.find?_tried (overloadsOf history name) n with ⟨hnone, hgiven⟩ | ⟨o, hbest, hgiven⟩
  · rcases Overload.find?_tried (defaultsOf history name ns) n with
      ⟨hnone', hdefault⟩ | ⟨o, hbest, hdefault⟩
    · refine .inr ⟨fun o hmeans => ?_, ?_⟩
      · cases hmeans with
        | given h => exact hnone o h.mem h.accepts
        | default _ h => exact hnone' o h.mem h.accepts
      · rw [hgiven, hdefault]
        dsimp only
        split
        next hempty => exact .inl ⟨hempty, rfl⟩
        next hempty => exact .inr ⟨hempty, _, rfl⟩
    · exact .inl ⟨o, .default hnone hbest, by rw [hgiven, hdefault]⟩
  · exact .inl ⟨o, .given hbest, by rw [hgiven]⟩

/-- A call is resolved to the overload it means. It is unknown if nothing was registered under either
name and of a wrong number of arguments otherwise. What was registered in another order is resolved
alike if no two overloads accept the same numbers of arguments. -/
theorem resolve_best (history : List Registration) (name : ExpandedName) (n : Nat)
    (ns : Option String) :
    (∀ run, (ofHistory history).resolve name n ns = .ok run ↔
      ∃ o, Means history name ns n o ∧ o.run = run) ∧
    ((ofHistory history).resolve name n ns = .error (.unknown (effectiveName name ns)) ↔
      overloadsOf history name = [] ∧ defaultsOf history name ns = []) ∧
    ((∃ available, (ofHistory history).resolve name n ns =
        .error (.wrongArity (effectiveName name ns) available)) ↔
      ¬(overloadsOf history name = [] ∧ defaultsOf history name ns = []) ∧
        ∀ o, ¬Means history name ns n o) ∧
    (∀ history', history.Perm history' → ((overloadsOf history name).map Overload.range).Nodup →
      ((defaultsOf history name ns).map Overload.range).Nodup →
      (ofHistory history').resolve name n ns = (ofHistory history).resolve name n ns) := by
  refine ⟨fun run => ?_, ?_, ?_, fun history' => resolve_of_perm⟩
  · rcases resolve_cases history name n ns with
      ⟨o, hmeans, hresolve⟩ | ⟨hnone, ⟨-, hresolve⟩ | ⟨-, available, hresolve⟩⟩
    · rw [hresolve, Except.ok.injEq]
      exact ⟨fun hrun => ⟨o, hmeans, hrun⟩, fun ⟨p, hp, hrun⟩ => hmeans.unique hp ▸ hrun⟩
    · rw [hresolve]
      exact iff_of_false nofun fun ⟨p, hp, _⟩ => hnone p hp
    · rw [hresolve]
      exact iff_of_false nofun fun ⟨p, hp, _⟩ => hnone p hp
  · rcases resolve_cases history name n ns with
      ⟨o, hmeans, hresolve⟩ | ⟨-, ⟨hempty, hresolve⟩ | ⟨hsome, available, hresolve⟩⟩
    · rw [hresolve]
      exact iff_of_false nofun hmeans.registered
    · exact iff_of_true hresolve hempty
    · rw [hresolve]
      exact iff_of_false nofun hsome
  · rcases resolve_cases history name n ns with
      ⟨o, hmeans, hresolve⟩ | ⟨hnone, ⟨hempty, hresolve⟩ | ⟨hsome, hresolve⟩⟩
    · rw [hresolve]
      exact iff_of_false nofun fun h => h.2 o hmeans
    · rw [hresolve]
      exact iff_of_false nofun fun h => h.1 hempty
    · exact iff_of_true hresolve ⟨hsome, hnone⟩

/-- Overloads that overlap: one for any numbers of arguments but zero and one for two or three of
them, and one in the default namespace for two or none. -/
def overlapping : List Registration :=
  [⟨⟨none, "f"⟩, ⟨1, none, fun _ _ => .ok (.boolean false)⟩⟩,
    ⟨.function "f", ⟨0, some 2, fun _ _ => .ok .empty⟩⟩,
    ⟨⟨none, "f"⟩, ⟨2, some 3, fun _ _ => .ok (.boolean true)⟩⟩]

/-- Two arguments are for the overload that demands more of them, whatever was registered first. -/
theorem resolve_best_overlapping :
    (ofHistory overlapping).resolve ⟨none, "f"⟩ 2 (some functionNamespace) =
      .ok (fun _ _ => .ok (.boolean true)) ∧
    (ofHistory overlapping.reverse).resolve ⟨none, "f"⟩ 2 (some functionNamespace) =
      (ofHistory overlapping).resolve ⟨none, "f"⟩ 2 (some functionNamespace) := by
  have hresolve := resolve_best overlapping ⟨none, "f"⟩ 2 (some functionNamespace)
  have hgiven : overloadsOf overlapping ⟨none, "f"⟩ =
      [⟨1, none, fun _ _ => .ok (.boolean false)⟩] ++
        ⟨2, some 3, fun _ _ => .ok (.boolean true)⟩ :: [] := rfl
  have hbest : Best (overloadsOf overlapping ⟨none, "f"⟩) 2
      ⟨2, some 3, fun _ _ => .ok (.boolean true)⟩ := by
    rw [hgiven]
    exact ⟨rfl, by simp, by simp, _, _, rfl, by simp [Overload.range]⟩
  exact ⟨(hresolve.1 _).2 ⟨_, .given hbest, rfl⟩,
    hresolve.2.2.2 _ (List.reverse_perm _).symm (by decide) (by decide)⟩

end FunctionRegistry

/-- The registry of the built-in functions is the history of their registrations. -/
theorem Library.registry_eq_ofHistory : registry = FunctionRegistry.ofHistory
    (functions.map fun (name, least, greatest, run) =>
      ⟨.function name, ⟨least, greatest, fun s => run s.caller⟩⟩) := by
  rw [registry, FunctionRegistry.ofHistory, List.foldl_map]

end Grove

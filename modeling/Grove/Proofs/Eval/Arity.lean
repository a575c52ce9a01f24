/-
What a failed call is told of. Where the number of arguments is wrong, the failure names a function
and lists numbers of arguments, and the two come from two lookups: the name is the one that is looked
up in the end, and the list is of the overloads found there or, if there are none, of those found
under the name as it was given (`FunctionRegistry.resolve_eq_wrongArity`). Every number in the list is
one that the call could be made with. But the name is that of a function only if both lookups come to
the same overloads: a name without namespace that is registered as it is given, and not in the default
namespace, is reported as the function of the default namespace that is not there
(`FunctionRegistry.wrongArity_consistent_iff`).
-/
import Grove.Proofs.Eval.Resolution

namespace Grove

theorem Overload.accepts_of_mem_arities {o : Overload} {k : Nat} (h : k ∈ o.arities) :
    o.accepts k = true := by
  obtain ⟨hmin, hmax⟩ := List.mem_range'_1.1 h
  cases hbound : o.maxArity with
  | none => simpa [accepts, hbound] using hmin
  | some bound =>
    rw [hbound, Option.getD_some] at hmax
    simp only [accepts, hbound, Option.all_some, Bool.and_eq_true, decide_eq_true_eq]
    omega

namespace FunctionRegistry

open Overload (tried)

variable {r : FunctionRegistry} {name f : ExpandedName} {n k : Nat} {ns : Option String}
  {overloads : List Overload} {available : List Nat} {o : Overload}

/-! ## Where overloads are found -/

theorem effectiveName_eq_self_or (name : ExpandedName) (ns : Option String) :
    effectiveName name ns = name ∨
      ∃ uri, name.namespaceUri = none ∧ ns = some uri ∧
        effectiveName name ns = ⟨some uri, name.localName⟩ := by
  obtain ⟨_ | uri, localName⟩ := name
  · cases ns with
    | none => exact .inl rfl
    | some uri => exact .inr ⟨uri, rfl, rfl, rfl⟩
  · exact .inl rfl

theorem exists_resolve_of_given (hfound : Table.get? r name = some overloads) (ho : o ∈ overloads)
    (haccepts : o.accepts k = true) (ns : Option String) : ∃ run, r.resolve name k ns = .ok run := by
  have hfirst : (((Table.get? r name).getD []).find? (·.accepts k)).isSome := by
    rw [hfound, Option.getD_some, List.find?_isSome]
    exact ⟨o, ho, haccepts⟩
  obtain ⟨chosen, hchosen⟩ := Option.isSome_iff_exists.1 hfirst
  exact ⟨chosen.run, by rw [resolve, hchosen]⟩

theorem exists_resolve_of_looked_up
    (hfound : (Table.get? r (effectiveName name ns)).or (Table.get? r name) = some overloads)
    (ho : o ∈ overloads) (haccepts : o.accepts k = true) : ∃ run, r.resolve name k ns = .ok run := by
  have hfirst : (overloads.find? (·.accepts k)).isSome := List.find?_isSome.2 ⟨o, ho, haccepts⟩
  obtain ⟨chosen, hchosen⟩ := Option.isSome_iff_exists.1 hfirst
  rw [resolve]
  split
  next given _ => exact ⟨given.run, rfl⟩
  next =>
    simp only [hfound, hchosen]
    exact ⟨chosen.run, rfl⟩

theorem resolve_of_missing (hgiven : Table.get? r name = none) (hself : effectiveName name ns = name) :
    r.resolve name k ns = .error (.unknown name) := by
  simp [resolve, hself, hgiven]

/-- The name in a failure is the one that is looked up in the end, and the list is of the overloads
that are found then, none of which accepts the number of arguments. -/
theorem resolve_eq_wrongArity (h : r.resolve name n ns = .error (.wrongArity f available)) :
    f = effectiveName name ns ∧ ∃ overloads, (Table.get? r f).or (Table.get? r name) = some overloads ∧
      (∀ o ∈ overloads, ¬o.accepts n = true) ∧
      ∀ k, k ∈ available ↔ ∃ o ∈ overloads, k ∈ o.arities := by
  unfold resolve at h
  split at h
  · cases h
  · dsimp only at h
    split at h
    · cases h
    next overloads hfound =>
      split at h
      · cases h
      next hnone =>
        obtain ⟨rfl, rfl⟩ := ResolveError.wrongArity.inj (Except.error.inj h)
        refine ⟨rfl, overloads, hfound, List.find?_eq_none.1 hnone, fun k => ?_⟩
        rw [mem_eraseReps, List.mem_mergeSort, List.mem_flatMap]

/-! ## What the failure says -/

/-- The name is one to be looked up in a default namespace in which nothing is registered under
it. -/
def DefaultMissing (r : FunctionRegistry) (name : ExpandedName) (ns : Option String) : Prop :=
  ∃ uri, name.namespaceUri = none ∧ ns = some uri ∧ r.contains ⟨some uri, name.localName⟩ = false

theorem not_defaultMissing_none : ¬r.DefaultMissing name none := fun ⟨_, _, hns, _⟩ => nomatch hns

theorem get?_reported
    (hfound : (Table.get? r (effectiveName name ns)).or (Table.get? r name) = some overloads)
    (hregistered : r.contains (effectiveName name ns) = true) :
    Table.get? r (effectiveName name ns) = some overloads := by
  obtain ⟨others, hothers⟩ := Option.isSome_iff_exists.1 hregistered
  rwa [hothers, Option.some_or, ← hothers] at hfound

/-- Where overloads were found, they were found under the name that is reported, unless this is the
one in the default namespace and nothing is registered under it. -/
theorem contains_reported_iff
    (hfound : (Table.get? r (effectiveName name ns)).or (Table.get? r name) = some overloads) :
    r.contains (effectiveName name ns) = true ↔ ¬r.DefaultMissing name ns := by
  constructor
  · rintro hregistered ⟨uri, hbare, rfl, hmissing⟩
    have heffective : effectiveName name (some uri) = ⟨some uri, name.localName⟩ := by
      simp [effectiveName, hbare]
    rw [heffective, hmissing] at hregistered
    cases hregistered
  · intro hdefault
    rcases effectiveName_eq_self_or name ns with heffective | ⟨uri, hbare, rfl, heffective⟩
    · rw [heffective, Option.or_self] at hfound
      rw [heffective, Table.contains, hfound]
      rfl
    · by_contra hregistered
      rw [Bool.not_eq_true, heffective] at hregistered
      exact hdefault ⟨uri, hbare, rfl, hregistered⟩

/-- A call fails with a wrong number of arguments only if this number is not listed, and with each
number that is listed it can be made. The function that is named is registered, and can itself be
called with each of these numbers, unless the name was looked up in a default namespace in which
nothing is registered under it. -/
theorem wrongArity_consistent_iff (h : r.resolve name n ns = .error (.wrongArity f available)) :
    n ∉ available ∧ (∀ k ∈ available, ∃ run, r.resolve name k ns = .ok run) ∧
      ((r.contains f = true ∧ ∀ k ∈ available, ∀ ns', ∃ run, r.resolve f k ns' = .ok run) ↔
        ¬r.DefaultMissing name ns) := by
  obtain ⟨rfl, overloads, hfound, hrefuse, havailable⟩ := resolve_eq_wrongArity h
  have haccepts : ∀ k ∈ available, ∃ o ∈ overloads, o.accepts k = true := fun k hk =>
    let ⟨o, ho, hlisted⟩ := (havailable k).1 hk
    ⟨o, ho, Overload.accepts_of_mem_arities hlisted⟩
  refine ⟨fun hn => ?_, fun k hk => ?_, fun h => (contains_reported_iff hfound).1 h.1, fun hdefault => ?_⟩
  · obtain ⟨o, ho, haccepts⟩ := haccepts n hn
    exact hrefuse o ho haccepts
  · obtain ⟨o, ho, haccepts⟩ := haccepts k hk
    exact exists_resolve_of_looked_up hfound ho haccepts
  · have hregistered := (contains_reported_iff hfound).2 hdefault
    refine ⟨hregistered, fun k hk ns' => ?_⟩
    obtain ⟨o, ho, haccepts⟩ := haccepts k hk
    exact exists_resolve_of_given (get?_reported hfound hregistered) ho haccepts ns'

/-- Of the overlapping overloads, those without namespace are for one argument or any number more of
them, and three are the most that is listed. -/
theorem wrongArity_consistent_iff_overlapping :
    (ofHistory overlapping).resolve ⟨none, "f"⟩ 0 none =
        .error (.wrongArity ⟨none, "f"⟩ [1, 2, 3]) ∧
      ∀ k ∈ [1, 2, 3], ∀ ns, ∃ run, (ofHistory overlapping).resolve ⟨none, "f"⟩ k ns = .ok run := by
  have hwrong : (ofHistory overlapping).resolve ⟨none, "f"⟩ 0 none =
      .error (.wrongArity ⟨none, "f"⟩ [1, 2, 3]) := by
    have htried : tried (overloadsOf overlapping ⟨none, "f"⟩) =
        [⟨2, some 3, fun _ _ => .ok (.boolean true)⟩, ⟨1, none, fun _ _ => .ok (.boolean false)⟩] := rfl
    have hdefault : defaultsOf overlapping ⟨none, "f"⟩ none = [] := rfl
    have hsorted : ([2, 3, 1].mergeSort : List Nat) = [1, 2, 3] := by
      simp [List.mergeSort, List.MergeSort.Internal.splitInTwo]
    have hlisted : ([2, 3, 1].mergeSort : List Nat).eraseReps = [1, 2, 3] := by
      rw [hsorted]
      rfl
    rw [resolve_ofHistory, hdefault, if_pos rfl, htried, ← hlisted]
    rfl
  have hconsistent := wrongArity_consistent_iff hwrong
  exact ⟨hwrong, (hconsistent.2.2.2 not_defaultMissing_none).2⟩

/-- One function of one argument, in no namespace. -/
def bare : FunctionRegistry := ofHistory [⟨⟨none, "f"⟩, ⟨1, some 1, fun _ _ => .ok .empty⟩⟩]

/-- A call with two arguments where the default namespace is another one is told of a function of one
argument in that namespace, which is not there. -/
theorem wrongArity_names_missing :
    bare.resolve ⟨none, "f"⟩ 2 (some "u") = .error (.wrongArity ⟨some "u", "f"⟩ [1]) ∧
      bare.contains ⟨some "u", "f"⟩ = false ∧
      ∀ ns, bare.resolve ⟨some "u", "f"⟩ 1 ns = .error (.unknown ⟨some "u", "f"⟩) := by
  have hlisted : ([1].mergeSort : List Nat).eraseReps = [1] := by
    rw [List.mergeSort_singleton]
    rfl
  refine ⟨?_, rfl, fun _ => resolve_of_missing rfl rfl⟩
  rw [← hlisted]
  rfl

end FunctionRegistry

end Grove

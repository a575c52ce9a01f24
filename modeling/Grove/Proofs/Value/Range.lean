/-
Ranges. The cursor over a range has the integer that comes next and nothing else, so that it could
not be told from one that is past the largest machine integer; it is moved on only where the range
goes on, and there the next integer is a machine integer as well. So after so many moves it has the
integer of that number, as long as there is one (`Cursor.askedFor_ofRange`), and goes through all of
them, each once, and stops (`Cursor.range_enumerates`).
-/
import Grove.Proofs.Value.Hints

namespace Grove

namespace Int64

variable {first last i : Int64} {n : Nat}

/-- The machine integers from one to another, in order. -/
def between (first last : Int64) : List Int64 :=
  (List.range (rangeSize first last)).map fun n : Nat => Int64.ofInt (first.toInt + n)

@[simp] theorem length_between (first last : Int64) :
    (between first last).length = rangeSize first last := by
  simp [between]

/-- What is counted off in a range is a machine integer. -/
theorem toInt_ofInt_between (h : n < rangeSize first last) :
    (Int64.ofInt (first.toInt + n)).toInt = first.toInt + n := by
  have hfirst := first.le_toInt
  have hlast := last.toInt_lt
  unfold rangeSize at h
  exact Int64.toInt_ofInt_of_le (by omega) (by omega)

theorem getElem?_between_eq_some :
    (between first last)[n]? = some i ↔ i.toInt = first.toInt + n ∧ i ≤ last := by
  rw [between, List.getElem?_map, Option.map_eq_some_iff]
  constructor
  · rintro ⟨k, hk, rfl⟩
    obtain ⟨hlt, rfl⟩ := List.getElem?_eq_some_iff.1 hk
    rw [List.length_range] at hlt
    rw [List.getElem_range, Int64.le_iff_toInt_le, toInt_ofInt_between hlt]
    refine ⟨rfl, ?_⟩
    unfold rangeSize at hlt
    omega
  · rintro ⟨hi, hle⟩
    have hle' := Int64.le_iff_toInt_le.1 hle
    have hlt : n < rangeSize first last := by
      unfold rangeSize
      omega
    refine ⟨n, List.getElem?_range hlt, Int64.toInt_inj.1 ?_⟩
    rw [toInt_ofInt_between hlt, hi]

theorem getElem?_between_eq_none (h : last.toInt < first.toInt + n) : (between first last)[n]? = none := by
  rw [List.getElem?_eq_none_iff, length_between, rangeSize]
  omega

theorem mem_between : i ∈ between first last ↔ first ≤ i ∧ i ≤ last := by
  rw [List.mem_iff_getElem?]
  constructor
  · rintro ⟨n, hn⟩
    obtain ⟨hi, hle⟩ := getElem?_between_eq_some.1 hn
    exact ⟨Int64.le_iff_toInt_le.2 (by omega), hle⟩
  · rintro ⟨hfirst, hle⟩
    have hfirst' := Int64.le_iff_toInt_le.1 hfirst
    exact ⟨(i.toInt - first.toInt).toNat, getElem?_between_eq_some.2 ⟨by omega, hle⟩⟩

theorem sorted_between (first last : Int64) : (between first last).Pairwise (· < ·) := by
  rw [between, List.pairwise_map]
  refine List.Pairwise.imp_of_mem (fun {m n} hm hn hlt => ?_) List.pairwise_lt_range
  rw [List.mem_range] at hm hn
  rw [Int64.lt_iff_toInt_lt, toInt_ofInt_between hm, toInt_ofInt_between hn]
  omega

/-- The one after an integer of a range is the next of it. -/
theorem following_between (h : (between first last)[n]? = some i) :
    Cursor.following last i = (between first last)[n + 1]? := by
  obtain ⟨hi, hle⟩ := getElem?_between_eq_some.1 h
  rw [Cursor.following]
  split
  next hlt =>
    have hsucc := toInt_succ hlt
    refine (getElem?_between_eq_some.2 ⟨?_, ?_⟩).symm
    · rw [hsucc, hi]
      omega
    · rw [Int64.le_iff_toInt_le, hsucc]
      exact Int64.lt_iff_toInt_lt.1 hlt
  next hge =>
    rw [Int64.lt_iff_toInt_lt] at hge
    exact (getElem?_between_eq_none (by omega)).symm

end Int64

namespace Cursor

variable {f : Forest} {first last : Int64}

theorem ofRange_eq (first last : Int64) :
    ofRange first last = .range first last (Int64.between first last)[0]? := by
  rw [ofRange]
  split
  next hle => rw [Int64.getElem?_between_eq_some.2 ⟨by simp, hle⟩]
  next hgt =>
    rw [Int64.le_iff_toInt_le] at hgt
    rw [Int64.getElem?_between_eq_none (by omega)]

/-- A move comes to the integer of some number, and is left with the one after it. -/
theorem next_between (f : Forest) (first last : Int64) (n : Nat) :
    (range first last (Int64.between first last)[n]?).next f =
      (.ok ((Int64.between first last)[n]?.map (Value.ofInt ·.toInt)),
        .range first last (Int64.between first last)[n + 1]?) := by
  cases hn : (Int64.between first last)[n]? with
  | none =>
    have hlater : (Int64.between first last)[n + 1]? = none :=
      List.getElem?_eq_none (Nat.le_succ_of_le (List.getElem?_eq_none_iff.1 hn))
    rw [hlater]
    rfl
  | some i =>
    rw [← Int64.following_between hn]
    rfl

theorem askedFor_ofRange (f : Forest) (first last : Int64) (n : Nat) :
    (ofRange first last).askedFor f n = .range first last (Int64.between first last)[n]? := by
  induction n with
  | zero => exact ofRange_eq first last
  | succ n ih => rw [askedFor_succ, ih, next_between]

/-- A cursor that answers with a list, however often it is asked, gives that list. -/
theorem Yields.of_askedFor {xs : List Value} {c : Cursor}
    (h : ∀ n, ((c.askedFor f n).next f).1 = .ok xs[n]?) : c.Yields f xs := by
  induction xs generalizing c with
  | nil => exact .ended (h 0)
  | cons x xs ih => exact .value (h 0) (ih fun n => h (n + 1))

theorem weight_ofRange (f : Forest) (first last : Int64) :
    (ofRange first last).weight f = rangeSize first last := by
  rw [ofRange]
  split
  next => rfl
  next hgt =>
    rw [Int64.le_iff_toInt_le] at hgt
    show 0 = rangeSize first last
    unfold rangeSize
    omega

/-- A range is gone through in order, each of its machine integers once, and then there is none, however
often it is asked for. Where it goes on, one more is a machine integer, also right before the largest.
A cursor that is taken back, however far it has come, goes through all of them again. -/
theorem range_enumerates (first last : Int64) (f : Forest) :
    let xs := Int64.between first last
    let values := xs.map (Value.ofInt ·.toInt)
    xs.Pairwise (· < ·) ∧ (∀ i, i ∈ xs ↔ first ≤ i ∧ i ≤ last) ∧
    (ofRange first last).drain f = (.ok values, .range first last none) ∧
    (∀ n, ((range first last none).askedFor f n).next f = (.ok none, .range first last none)) ∧
    ∀ n, let c := (ofRange first last).askedFor f n
      (c.next f).1 = .ok values[n]? ∧
      c = .range first last xs[n]? ∧ (∀ i, xs[n]? = some i → i < last → (i + 1).toInt = i.toInt + 1) ∧
      c.reset.drain f = (.ok values, .range first last none) := by
  intro xs values
  have hanswer : ∀ n, (((ofRange first last).askedFor f n).next f).1 = .ok values[n]? := fun n => by
    rw [askedFor_ofRange, next_between, List.getElem?_map]
  have hlength : values.length = rangeSize first last := by simp [values, xs]
  have hdrain : (ofRange first last).drain f = (.ok values, .range first last none) := by
    have hend : xs[values.length + 1]? = none := by simp [values]
    rw [(Yields.of_askedFor hanswer).drain_eq (by rw [hlength, weight_ofRange]), askedFor_ofRange, hend]
  have hended : ∀ n, (range first last none).askedFor f n = .range first last none := fun n => by
    induction n with
    | zero => rfl
    | succ n ih => exact ih
  refine ⟨Int64.sorted_between first last, fun i => Int64.mem_between, hdrain, fun n => ?_, fun n => ?_⟩
  · rw [hended]
    rfl
  · intro c
    have hc : c = .range first last xs[n]? := askedFor_ofRange f first last n
    refine ⟨hanswer n, hc, fun i _ hlt => Int64.toInt_succ hlt, ?_⟩
    rw [hc]
    exact hdrain

/-- The two largest machine integers. -/
theorem range_enumerates_largest :
    let last := Int64.maxValue
    let first := last - 1
    let values := [Value.ofInt 9223372036854775806, Value.ofInt 9223372036854775807]
    first < last ∧ (first + 1).toInt = first.toInt + 1 ∧
      (ofRange first last).drain default = (.ok values, .range first last none) ∧
      ((ofRange first last).askedFor default 2).reset.drain default =
        (.ok values, .range first last none) := by
  intro last first values
  have hlt : first < last := by decide
  have hbetween : Int64.between first last = [first, last] := by decide
  have hints : first.toInt = 9223372036854775806 ∧ last.toInt = 9223372036854775807 := by decide
  have hvalues : (Int64.between first last).map (Value.ofInt ·.toInt) = values := by
    rw [hbetween, List.map_cons, List.map_singleton, hints.1, hints.2]
  obtain ⟨-, -, hdrain, -, hasked⟩ := range_enumerates first last default
  obtain ⟨-, -, hsucc, -⟩ := hasked 0
  obtain ⟨-, -, -, hreset⟩ := hasked 2
  have hfirst : (Int64.between first last)[0]? = some first := by rw [hbetween]; rfl
  rw [hvalues] at hdrain hreset
  exact ⟨hlt, hsucc first hfirst hlt, hdrain, hreset⟩

end Cursor

end Grove

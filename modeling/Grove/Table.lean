/-
Finite tables. A table holds its entries in the order in which their keys were
first put in; a key has one entry. What a table answers is `get?`, and each
operation below comes with what it does to the answers.
-/

namespace Grove

/-- Keys with one value each. -/
structure Table (κ ν : Type) where
  entries : List (κ × ν)
  distinct : (entries.map Prod.fst).Nodup

namespace Table

variable {κ ν : Type}

def empty : Table κ ν := ⟨[], by simp⟩

instance : Inhabited (Table κ ν) := ⟨empty⟩

/-- How many keys there are. -/
def size (t : Table κ ν) : Nat := t.entries.length

def keys (t : Table κ ν) : List κ := t.entries.map Prod.fst

def values (t : Table κ ν) : List ν := t.entries.map Prod.snd

variable [DecidableEq κ]

/-- The value of a key. -/
def get? (t : Table κ ν) (k : κ) : Option ν :=
  (t.entries.find? (·.1 = k)).map Prod.snd

def contains (t : Table κ ν) (k : κ) : Bool := (t.get? k).isSome

/-- The entries with the value of one key replaced. -/
def replaceIn (k : κ) (v : ν) : List (κ × ν) → List (κ × ν)
  | [] => []
  | e :: es => (if e.1 = k then (k, v) else e) :: replaceIn k v es

theorem map_fst_replaceIn (k : κ) (v : ν) (es : List (κ × ν)) :
    (replaceIn k v es).map Prod.fst = es.map Prod.fst := by
  induction es with
  | nil => rfl
  | cons e es ih =>
    by_cases h : e.1 = k <;> simp [replaceIn, h, ih]

theorem get?_eq_none_iff {t : Table κ ν} {k : κ} : t.get? k = none ↔ k ∉ t.keys := by
  simp only [get?, keys, Option.map_eq_none_iff, List.find?_eq_none, List.mem_map,
    decide_eq_true_eq]
  exact ⟨fun h ⟨e, he, hk⟩ => h e he hk, fun h e he hk => h ⟨e, he, hk⟩⟩

theorem find?_of_mem {es : List (κ × ν)} {e : κ × ν} (hd : (es.map Prod.fst).Nodup) (h : e ∈ es) :
    es.find? (·.1 = e.1) = some e := by
  induction es with
  | nil => simp at h
  | cons a es ih =>
    rw [List.map_cons, List.nodup_cons] at hd
    rcases List.mem_cons.1 h with rfl | h
    · simp
    · have hne : a.1 ≠ e.1 := fun heq => hd.1 (heq ▸ List.mem_map_of_mem h)
      simp [hne, ih hd.2 h]

theorem get?_of_mem_values {t : Table κ ν} {v : ν} (h : v ∈ t.values) : ∃ k, t.get? k = some v := by
  obtain ⟨e, he, rfl⟩ := List.mem_map.1 h
  exact ⟨e.1, by rw [get?, find?_of_mem t.distinct he]; rfl⟩

theorem mem_values_of_get? {t : Table κ ν} {k : κ} {v : ν} (h : t.get? k = some v) : v ∈ t.values := by
  obtain ⟨e, hfind, rfl⟩ := Option.map_eq_some_iff.1 h
  exact List.mem_map_of_mem (List.mem_of_find?_eq_some hfind)

/-- Gives a key a value. A key that is there keeps its place. -/
def insert (t : Table κ ν) (k : κ) (v : ν) : Table κ ν :=
  if h : k ∈ t.keys then
    ⟨replaceIn k v t.entries, by rw [map_fst_replaceIn]; exact t.distinct⟩
  else
    ⟨t.entries ++ [(k, v)], by
      have hd := t.distinct
      simp only [keys] at h
      rw [List.map_append, List.nodup_append]
      refine ⟨hd, by simp, ?_⟩
      intro a ha b hb
      simp at hb
      subst hb
      intro hab
      exact h (hab ▸ ha)⟩

/-- Takes a key out. -/
def erase (t : Table κ ν) (k : κ) : Table κ ν :=
  ⟨t.entries.filter (·.1 ≠ k), (List.filter_sublist.map Prod.fst).nodup t.distinct⟩

/-- Keeps the keys with a property. -/
def filterKeys (t : Table κ ν) (p : κ → Bool) : Table κ ν :=
  ⟨t.entries.filter (p ·.1), (List.filter_sublist.map Prod.fst).nodup t.distinct⟩

theorem find?_replaceIn_self (k : κ) (v : ν) (es : List (κ × ν)) (h : k ∈ es.map Prod.fst) :
    (replaceIn k v es).find? (·.1 = k) = some (k, v) := by
  induction es with
  | nil => simp at h
  | cons e es ih =>
    by_cases he : e.1 = k
    · simp [replaceIn, he]
    · have : k ∈ es.map Prod.fst := by
        rcases List.mem_cons.1 (by simpa using h : k ∈ e.1 :: es.map Prod.fst) with h | h
        · exact absurd h.symm he
        · exact h
      simp [replaceIn, he, ih this]

theorem find?_replaceIn_other {k k' : κ} (hk : k' ≠ k) (v : ν) (es : List (κ × ν)) :
    (replaceIn k v es).find? (·.1 = k') = es.find? (·.1 = k') := by
  induction es with
  | nil => rfl
  | cons e es ih =>
    by_cases he : e.1 = k
    · simp [replaceIn, he, hk.symm, ih]
    · rw [replaceIn, if_neg he, List.find?_cons, List.find?_cons, ih]

@[simp] theorem get?_empty (k : κ) : (empty : Table κ ν).get? k = none := rfl

@[simp] theorem get?_insert_self (t : Table κ ν) (k : κ) (v : ν) :
    (t.insert k v).get? k = some v := by
  unfold insert
  split
  · next h => simp [get?, find?_replaceIn_self k v t.entries h]
  · next h =>
    have : t.entries.find? (·.1 = k) = none := by
      simpa [get?] using get?_eq_none_iff.2 h
    simp [get?, List.find?_append, this]

theorem get?_insert_other (t : Table κ ν) {k k' : κ} (v : ν) (hk : k' ≠ k) :
    (t.insert k v).get? k' = t.get? k' := by
  unfold insert
  split
  · simp [get?, find?_replaceIn_other hk]
  · simp [get?, List.find?_append, hk.symm]

theorem get?_insert (t : Table κ ν) (k : κ) (v : ν) (k' : κ) :
    (t.insert k v).get? k' = if k' = k then some v else t.get? k' := by
  split
  next h => rw [h, get?_insert_self]
  next h => exact get?_insert_other t v h

theorem eq_some_of_insert {t : Table κ ν} {k k' : κ} {v v' : ν}
    (h : (t.insert k v).get? k' = some v') : k' = k ∧ v = v' ∨ t.get? k' = some v' := by
  rw [get?_insert] at h
  split at h
  next hk => exact .inl ⟨hk, Option.some_inj.1 h⟩
  next => exact .inr h

@[simp] theorem get?_erase_self (t : Table κ ν) (k : κ) : (t.erase k).get? k = none := by
  simp [get?, erase, List.find?_filter]

theorem get?_erase_other (t : Table κ ν) {k k' : κ} (hk : k' ≠ k) :
    (t.erase k).get? k' = t.get? k' := by
  simp only [get?, erase, List.find?_filter]
  congr 1
  congr 1
  funext e
  by_cases h : e.1 = k' <;> simp [h, hk]

theorem get?_erase (t : Table κ ν) (k k' : κ) :
    (t.erase k).get? k' = if k' = k then none else t.get? k' := by
  split
  next h => rw [h, get?_erase_self]
  next h => exact get?_erase_other t h

theorem eq_some_of_erase {t : Table κ ν} {k k' : κ} {v : ν}
    (h : (t.erase k).get? k' = some v) : k' ≠ k ∧ t.get? k' = some v := by
  rw [get?_erase] at h
  split at h
  next => simp at h
  next hk => exact ⟨hk, h⟩

end Table

end Grove

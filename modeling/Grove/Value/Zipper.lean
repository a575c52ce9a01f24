/-
A position in a list: what lies before it, the nearest first, and what lies
ahead. Every move keeps the list.
-/

namespace Grove

/-- A list with a position in it. -/
structure Zipper (α : Type) where
  passed : List α := []
  ahead : List α := []
  deriving Repr

namespace Zipper

variable {α : Type}

/-- A list with the position at its start. -/
def ofList (l : List α) : Zipper α := ⟨[], l⟩

def toList (z : Zipper α) : List α := z.passed.reverse ++ z.ahead

/-- How many items lie before the position. -/
def position (z : Zipper α) : Nat := z.passed.length

/-- The next item, with the position behind it. -/
def next? (z : Zipper α) : Option (α × Zipper α) :=
  match z.ahead with
  | [] => none
  | x :: rest => some (x, ⟨x :: z.passed, rest⟩)

/-- The item before, with the position in front of it. -/
def previous? (z : Zipper α) : Option (α × Zipper α) :=
  match z.passed with
  | [] => none
  | x :: rest => some (x, ⟨rest, x :: z.ahead⟩)

/-- The position moved to the start. -/
def rewind (z : Zipper α) : Zipper α := ofList z.toList

/-- The list with an item more, and the position at its end. -/
def record (z : Zipper α) (x : α) : Zipper α := ⟨x :: (z.ahead.reverse ++ z.passed), []⟩

/-- The list with some items more, and the position at its end. -/
def recordAll (z : Zipper α) (xs : List α) : Zipper α := xs.foldl record z

@[simp] theorem toList_ofList (l : List α) : (ofList l).toList = l := rfl

@[simp] theorem toList_rewind (z : Zipper α) : z.rewind.toList = z.toList := rfl

theorem toList_next? {z z' : Zipper α} {x : α} (h : z.next? = some (x, z')) :
    z'.toList = z.toList := by
  obtain ⟨passed, ahead⟩ := z
  cases ahead with
  | nil => simp [next?] at h
  | cons y rest =>
    simp only [next?, Option.some.injEq, Prod.mk.injEq] at h
    obtain ⟨rfl, rfl⟩ := h
    simp [toList]

theorem toList_previous? {z z' : Zipper α} {x : α} (h : z.previous? = some (x, z')) :
    z'.toList = z.toList := by
  obtain ⟨passed, ahead⟩ := z
  cases passed with
  | nil => simp [previous?] at h
  | cons y rest =>
    simp only [previous?, Option.some.injEq, Prod.mk.injEq] at h
    obtain ⟨rfl, rfl⟩ := h
    simp [toList]

theorem toList_record (z : Zipper α) (x : α) : (z.record x).toList = z.toList ++ [x] := by
  simp [toList, record]

end Zipper

end Grove

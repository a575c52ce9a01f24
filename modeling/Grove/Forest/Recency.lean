/-
A bounded list of entries by key, the most recent first. Putting an entry in
moves its key to the front and may push out one other entry: the earlier entry
of the same key, or the last one when the list is full.
-/

namespace Grove

/-- At most `capacity` entries, the most recent first. -/
structure RecencyList (κ ν : Type) where
  capacity : Nat
  entries : List (κ × ν) := []

namespace RecencyList

variable {κ ν : Type} [DecidableEq κ]

def size (r : RecencyList κ ν) : Nat := r.entries.length

/-- The value of a key; asking does not make it more recent. -/
def get? (r : RecencyList κ ν) (k : κ) : Option ν :=
  (r.entries.find? (·.1 = k)).map Prod.snd

/-- The entries without a key. -/
def without (r : RecencyList κ ν) (k : κ) : List (κ × ν) := r.entries.filter (·.1 ≠ k)

/-- Puts an entry in front, and gives the entry that it pushes out. -/
def put (r : RecencyList κ ν) (k : κ) (v : ν) : RecencyList κ ν × Option (κ × ν) :=
  match r.get? k with
  | some old => ({ r with entries := (k, v) :: r.without k }, some (k, old))
  | none =>
    if r.size < r.capacity then ({ r with entries := (k, v) :: r.entries }, none)
    else ({ r with entries := (k, v) :: r.entries.dropLast }, r.entries.getLast?)

/-- Takes the entry of a key out. -/
def take (r : RecencyList κ ν) (k : κ) : RecencyList κ ν × Option ν :=
  ({ r with entries := r.without k }, r.get? k)

end RecencyList

end Grove

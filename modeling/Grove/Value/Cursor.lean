/-
Cursors. A cursor moves through a sequence one value at a time. All cursors go
forward and back to the start; those of listed and kept values also go
backward. A cursor over evaluated expressions goes through the items of their
values: it has a stack of cursors for the sequences it is in.

`seek` takes a cursor to the next item, through as many nested sequences as it
takes; `next` takes it to the next value, which may be a sequence.
-/
import Grove.Value.Fold
import Grove.Value.Zipper

namespace Grove

/-- A position in a sequence. -/
inductive Cursor where
  | list (items : Zipper Value)
  /-- The integers from the first to the last, with the one that comes next. -/
  | range (first last : Int64) (next : Option Int64)
  /-- The values of another cursor, kept as they come. -/
  | cached (inner : Cursor) (kept : Zipper Value) (done : Bool)
  /-- Evaluated expressions, with the cursors of the sequences that are open, the
  innermost first, and the items kept so far. -/
  | evaluated (mode : SequenceMode) (evaluations : Zipper Evaluation) (nested : List Cursor)
      (kept : Zipper Value)
  /-- A walk, with the numbers of the nodes still to be visited. -/
  | nodes (walk : NodeWalk) (pending : List Nat) (started : Bool)

/-- What looking for an item comes to. -/
structure Seek where
  /-- The item, or none at the end of the sequence. -/
  outcome : Except Error (Option Value)
  /-- The cursor that was moved. -/
  cursor : Cursor
  /-- The cursors of the nested sequences that were opened and not left, the
  innermost first. -/
  opened : List Cursor := []
  /-- The values that the cursor came to, the last one last. -/
  pulled : List Value := []

/-- Whether the end of the sequence was reached. -/
def Seek.atEnd (s : Seek) : Bool :=
  match s.outcome with
  | .ok none => true
  | _ => false

/-- The first result with an item or a failure; what comes after it is still to be
visited. -/
def firstFound {α ε : Type} (number : α → Nat) (look : α → Except ε (Option Nat) × List Nat) :
    List α → Except ε (Option Nat) × List Nat
  | [] => (.ok none, [])
  | a :: rest =>
    match look a with
    | (.ok none, _) => firstFound number look rest
    | (found, pending) => (found, pending ++ rest.map number)

/-- The first node of a subtree that is accepted, and what is left of the subtree
behind it. -/
def Tree.firstAccepted {ε : Type} (t : Tree) (accepts : Nat → Except ε Bool) (i : Nat) :
    Except ε (Option Nat) × List Nat :=
  match accepts i with
  | .error e => (.error e, t.laterChildren i)
  | .ok true => (.ok (some i), t.laterChildren i)
  | .ok false =>
    firstFound (·.val) (fun ⟨c, _⟩ => t.firstAccepted accepts c) (t.laterChildren i).attach
termination_by t.size - i
decreasing_by
  have := Tree.mem_laterChildren ‹c ∈ t.laterChildren i›
  omega

/-- The next node of a walk, and what is left of it. -/
def NodeWalk.advance (w : NodeWalk) (f : Forest) (pending : List Nat) :
    Except Error (Option NodeHandle) × List Nat :=
  let m := f.model w.model
  let (found, pending) :=
    firstFound id (m.tree.firstAccepted fun i => w.accepts m (m.handle i)) pending
  (found.map (·.map m.handle), pending)

/-- The first node of a walk, and what is left of it. The root must be a node of the
model of the walk. -/
def NodeWalk.enter (w : NodeWalk) (f : Forest) : Except Error (Option NodeHandle) × List Nat :=
  match (f.model w.model).locate w.root with
  | .error e => (.error (.ofTree e), [])
  | .ok i => w.advance f [i]

namespace Cursor

/-- The cursor at the start of a range. -/
def ofRange (first last : Int64) : Cursor :=
  .range first last (if first ≤ last then some first else none)

/-- The cursor at the start of a sequence. -/
def ofSequence : Sequence → Cursor
  | .list items => .list (.ofList items)
  | .range first last => ofRange first last
  | .cached inner => .cached (ofSequence inner) {} false
  | .evaluated mode evaluations => .evaluated mode (.ofList evaluations) [] {}
  | .nodes walk => .nodes walk [] false
  termination_by structural s => s

/-- A cursor over a node and what is below it, past the nodes of some kinds that pass a
filter. -/
def overNodes (f : Forest) (r : ManagerRef) (root : NodeHandle) (mask : KindMask)
    (filter : Option NodeFilter) : Except Error Cursor :=
  match f.ownerRef r root with
  | .error e => .error (.ofTree e)
  | .ok model => .ok (ofSequence (.nodes { model, root, mask, filter }))

/-- The sequence that a cursor moves through. -/
def sequence : Cursor → Sequence
  | list items => .list items.toList
  | range first last _ => .range first last
  | cached inner _ _ => .cached inner.sequence
  | evaluated mode evaluations _ _ => .evaluated mode evaluations.toList
  | nodes walk _ _ => .nodes walk
  termination_by structural c => c

/-- A cursor at the start of the same sequence. -/
def fresh (c : Cursor) : Cursor := ofSequence c.sequence

/-- The integer after one that is in a range, if the range goes on. -/
def following (last current : Int64) : Option Int64 :=
  if current < last then some (current + 1) else none

/-- A move through a range. -/
def nextInRange (first last : Int64) (next : Option Int64) : Seek :=
  match next with
  | none => { outcome := .ok none, cursor := .range first last none }
  | some i =>
    let item := Value.ofInt i.toInt
    { outcome := .ok (some item), cursor := .range first last (following last i), pulled := [item] }

/-- A move through a walk. -/
def nextNode (f : Forest) (w : NodeWalk) (pending : List Nat) (started : Bool) : Seek :=
  let (found, pending) := if started then w.advance f pending else w.enter f
  let cursor := Cursor.nodes w pending true
  match found with
  | .error e => { outcome := .error e, cursor }
  | .ok none => { outcome := .ok none, cursor }
  | .ok (some h) => { outcome := .ok (some (.node h)), cursor, pulled := [.node h] }

/-- The cursor over evaluated expressions once an item is found in nested
sequences. -/
def foundNested (mode : SequenceMode) (evaluations : Zipper Evaluation) (nested : List Cursor)
    (kept : Zipper Value) (outcome : Except Error (Option Value)) : Seek :=
  match outcome with
  | .ok (some item) =>
    let kept := match mode with
      | .cached => kept.record item
      | .forwardOnly => kept
    { outcome, cursor := .evaluated mode evaluations nested kept, pulled := [item] }
  | outcome => { outcome, cursor := .evaluated mode evaluations nested kept }

end Cursor

mutual

/-- The next item among the values ahead in a list. `rebuild` makes the cursor that
is left from the position reached. -/
def seekInList (f : Forest) (rebuild : Zipper Value → Cursor) (passed pulled : List Value) :
    List Value → Seek
  | [] => { outcome := .ok none, cursor := rebuild ⟨passed, []⟩, pulled }
  | v :: vs =>
    match v.seek f with
    | none =>
      { outcome := .ok (some v), cursor := rebuild ⟨v :: passed, vs⟩, pulled := pulled ++ [v] }
    | some found =>
      match found.outcome with
      | .ok none => seekInList f rebuild (v :: passed) (pulled ++ [v]) vs
      | outcome =>
        { outcome, cursor := rebuild ⟨v :: passed, vs⟩, opened := found.opened ++ [found.cursor]
          pulled := pulled ++ [v] }
  termination_by structural vs => vs

/-- The first item of a value that is a sequence. -/
def Value.seek (f : Forest) : Value → Option Seek
  | .sequence s => some (s.seek f)
  | _ => none
  termination_by structural v => v

/-- The first item of a sequence. -/
def Sequence.seek (f : Forest) : Sequence → Seek
  | .list items => seekInList f .list [] [] items
  | .range first last =>
    Cursor.nextInRange first last (if first ≤ last then some first else none)
  | .cached inner =>
    let found := inner.seek f
    { found with cursor := .cached found.cursor (Zipper.recordAll {} found.pulled) found.atEnd }
  | .evaluated mode evaluations => seekInEvaluations f mode [] {} evaluations
  | .nodes walk => Cursor.nextNode f walk [] false
  termination_by structural s => s

/-- The first item of the value of an expression, or nothing if the value is an
item. -/
def seekInOutcome (f : Forest) : Except Error Value → Option Seek
  | .ok v => v.seek f
  | .error _ => none
  termination_by structural r => r

/-- The first item of the values of the expressions ahead. -/
def seekInEvaluations (f : Forest) (mode : SequenceMode) (passed : List Evaluation)
    (kept : Zipper Value) : List (Forest → Except Error Value) → Seek
  | [] => Cursor.foundNested mode ⟨passed, []⟩ [] kept (.ok none)
  | x :: xs =>
    match seekInOutcome f (x f) with
    | none => Cursor.foundNested mode ⟨x :: passed, xs⟩ [] kept ((x f).map some)
    | some found =>
      match found.outcome with
      | .ok none => seekInEvaluations f mode (x :: passed) kept xs
      | outcome =>
        Cursor.foundNested mode ⟨x :: passed, xs⟩ (found.opened ++ [found.cursor]) kept outcome
  termination_by structural xs => xs

end

mutual

/-- Moves a cursor to the next item, through nested sequences. -/
def Cursor.seek (f : Forest) : Cursor → Seek
  | .list items => seekInList f .list items.passed [] items.ahead
  | .range first last next => Cursor.nextInRange first last next
  | .cached inner kept done =>
    let replay := seekInList f (.cached inner · done) kept.passed [] kept.ahead
    match replay.outcome, done with
    | .ok none, false =>
      let found := inner.seek f
      { found with
        cursor := .cached found.cursor
          (Zipper.recordAll ⟨kept.ahead.reverse ++ kept.passed, []⟩ found.pulled) found.atEnd
        pulled := replay.pulled ++ found.pulled }
    | _, _ => replay
  | .evaluated mode evaluations nested kept =>
    match mode, kept.next? with
    | .cached, some (item, kept) =>
      { outcome := .ok (some item), cursor := .evaluated mode evaluations nested kept
        pulled := [item] }
    | _, _ =>
      match seekInStack f nested with
      | (.ok none, _) => seekInEvaluations f mode evaluations.passed kept evaluations.ahead
      | (outcome, nested) => Cursor.foundNested mode evaluations nested kept outcome
  | .nodes walk pending started => Cursor.nextNode f walk pending started
  termination_by structural c => c

/-- The next item in a stack of cursors, with the stack that is left. A cursor at
its end is taken off. -/
def seekInStack (f : Forest) : List Cursor → Except Error (Option Value) × List Cursor
  | [] => (.ok none, [])
  | top :: rest =>
    let found := top.seek f
    match found.outcome with
    | .ok none => seekInStack f rest
    | outcome => (outcome, found.opened ++ found.cursor :: rest)
  termination_by structural cs => cs

end

namespace Cursor

/-- Moves a cursor to the next value, which may itself be a sequence. There is none
at the end, and the cursor stays there. -/
def next (f : Forest) : Cursor → Except Error (Option Value) × Cursor
  | list items =>
    match items.next? with
    | some (v, items) => (.ok (some v), list items)
    | none => (.ok none, list items)
  | cached inner kept done =>
    match kept.next? with
    | some (v, kept) => (.ok (some v), cached inner kept done)
    | none =>
      if done then (.ok none, cached inner kept done)
      else
        match next f inner with
        | (.ok (some v), inner) => (.ok (some v), cached inner (kept.record v) done)
        | (.ok none, inner) => (.ok none, cached inner kept true)
        | (.error e, inner) => (.error e, cached inner kept done)
  | c =>
    let found := c.seek f
    (found.outcome, found.cursor)
  termination_by structural c => c

/-- Moves a cursor to the value before, if the cursor can go backward. -/
def previous : Cursor → Except Error (Option Value) × Cursor
  | list items =>
    match items.previous? with
    | some (v, items) => (.ok (some v), list items)
    | none => (.ok none, list items)
  | cached inner kept done =>
    match kept.previous? with
    | some (v, kept) => (.ok (some v), cached inner kept done)
    | none => (.ok none, cached inner kept done)
  | evaluated .cached evaluations nested kept =>
    match kept.previous? with
    | some (v, kept) => (.ok (some v), evaluated .cached evaluations nested kept)
    | none => (.ok none, evaluated .cached evaluations nested kept)
  | evaluated .forwardOnly evaluations nested kept =>
    (.error (.unsupported "previous() needs a sequence constructed in cached mode"),
      evaluated .forwardOnly evaluations nested kept)
  | c => (.error (.unsupported "backward iteration requires a cached sequence"), c)

/-- Moves a cursor back to the start. Kept values are not asked for again. -/
def reset : Cursor → Cursor
  | list items => list items.rewind
  | range first last _ => ofRange first last
  | cached inner kept done => cached inner kept.rewind done
  | evaluated .cached evaluations nested kept => evaluated .cached evaluations nested kept.rewind
  | evaluated .forwardOnly evaluations _ kept => evaluated .forwardOnly evaluations.rewind [] kept
  | nodes walk _ _ => nodes walk [] false

/-- Whether a cursor can go backward. -/
def isCached : Cursor → Bool
  | list _ => true
  | cached _ _ _ => true
  | evaluated .cached _ _ _ => true
  | _ => false

/-- The largest count that a size hint gives. -/
def maxHint : Nat := Nat.pow 2 64 - 1

/-- Bounds on how many values lie ahead: a lower one, and an upper one if it is
known. -/
def sizeHint : Cursor → Nat × Option Nat
  | list items => (items.ahead.length, some items.ahead.length)
  | range _ last next =>
    let rest := match next with
      | none => 0
      | some i => min ((last.toInt - i.toInt).natAbs + 1) maxHint
    (rest, some rest)
  | cached inner kept _ =>
    let (low, high) := inner.sizeHint
    (low, high.map fun h => min (h + kept.toList.length) maxHint)
  | evaluated _ _ _ _ => (0, none)
  | nodes _ _ _ => (0, none)
  termination_by structural c => c

/-- How many values have been kept of the sequence of another cursor. -/
def buffered? : Cursor → Option Nat
  | cached _ kept _ => some kept.toList.length
  | _ => none

/-- How many values there are in all, where they are listed. -/
def listLength? : Cursor → Option Nat
  | list items => some items.toList.length
  | _ => none

def mode? : Cursor → Option SequenceMode
  | evaluated mode _ _ _ => some mode
  | _ => none

def root? : Cursor → Option NodeHandle
  | nodes walk _ _ => some walk.root
  | _ => none

end Cursor

end Grove

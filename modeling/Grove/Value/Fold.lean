/-
Going through the items of a value. `foldItems` carries a state from item to
item, where an item is anything but a sequence, and stops when its step does or
when an item cannot be had. What is not reached is not evaluated.
-/
import Grove.Value.Basic

namespace Grove

/-- Carries a state over consecutive integers. -/
def foldRange {σ ε : Type} (step : σ → Value → Except ε σ) : Nat → Int → σ → Except ε σ
  | 0, _, s => .ok s
  | count + 1, i, s =>
    match step s (Value.ofInt i) with
    | .ok s => foldRange step count (i + 1) s
    | .error e => .error e

/-- Carries a state over the nodes that a walk shows. -/
def foldNodes {σ ε : Type} (raise : Error → ε) (step : σ → Value → Except ε σ)
    (accepts : NodeHandle → Except Error Bool) : List NodeHandle → σ → Except ε σ
  | [], s => .ok s
  | h :: hs, s =>
    match accepts h with
    | .error e => .error (raise e)
    | .ok false => foldNodes raise step accepts hs s
    | .ok true =>
      match step s (.node h) with
      | .ok s => foldNodes raise step accepts hs s
      | .error e => .error e

/-- Carries a state over a walk. -/
def NodeWalk.fold {σ ε : Type} (w : NodeWalk) (f : Forest) (raise : Error → ε)
    (step : σ → Value → Except ε σ) (s : σ) : Except ε σ :=
  let m := f.model w.model
  match m.descendants w.root true with
  | .error e => .error (raise (Error.ofTree e))
  | .ok hs => foldNodes raise step (w.accepts m) hs s

mutual

/-- Carries a state over the items of a value. -/
def Value.foldItems {σ ε : Type} (f : Forest) (raise : Error → ε)
    (step : σ → Value → Except ε σ) : Value → σ → Except ε σ
  | .sequence s, state => s.foldItems f raise step state
  | v, state => step state v
  termination_by structural v => v

/-- Carries a state over the items of a sequence. -/
def Sequence.foldItems {σ ε : Type} (f : Forest) (raise : Error → ε)
    (step : σ → Value → Except ε σ) : Sequence → σ → Except ε σ
  | .list items, state => foldItemsOfList f raise step items state
  | .range first last, state => foldRange step (rangeSize first last) first.toInt state
  | .cached inner, state => inner.foldItems f raise step state
  | .evaluated _ evaluations, state => foldItemsOfEvaluations f raise step evaluations state
  | .nodes walk, state => walk.fold f raise step state
  termination_by structural s => s

/-- Carries a state over the items of several values. -/
def foldItemsOfList {σ ε : Type} (f : Forest) (raise : Error → ε)
    (step : σ → Value → Except ε σ) : List Value → σ → Except ε σ
  | [], state => .ok state
  | v :: vs, state =>
    match v.foldItems f raise step state with
    | .ok state => foldItemsOfList f raise step vs state
    | .error e => .error e
  termination_by structural vs => vs

/-- Carries a state over the items of the value of an expression. -/
def foldItemsOfOutcome {σ ε : Type} (f : Forest) (raise : Error → ε)
    (step : σ → Value → Except ε σ) : Except Error Value → σ → Except ε σ
  | .ok v, state => v.foldItems f raise step state
  | .error e, _ => .error (raise e)
  termination_by structural r => r

/-- Carries a state over the items of the values of several expressions. -/
def foldItemsOfEvaluations {σ ε : Type} (f : Forest) (raise : Error → ε)
    (step : σ → Value → Except ε σ) :
    List (Forest → Except Error Value) → σ → Except ε σ
  | [], state => .ok state
  | x :: xs, state =>
    match foldItemsOfOutcome f raise step (x f) state with
    | .ok state => foldItemsOfEvaluations f raise step xs state
    | .error e => .error e
  termination_by structural xs => xs

end

/-- Why a walk through items stopped early. -/
inductive Stop (ρ : Type) where
  | failed (e : Error)
  | decided (r : ρ)

namespace Value

/-- All items of a value. -/
def flatten (f : Forest) (v : Value) : Except Error (List Value) :=
  (v.foldItems f id (fun (items : Array Value) item => .ok (items.push item)) #[]).map (·.toList)

/-- The first item that a walk through items comes to. -/
def firstOfWalk {σ : Type} (r : Except (Stop Value) σ) : Except Error (Option Value) :=
  match r with
  | .ok _ => .ok none
  | .error (.decided item) => .ok (some item)
  | .error (.failed e) => .error e

end Value

mutual

/-- The first item of a value. Of listed items only the first is looked at, also
when it is an empty sequence. -/
def Value.first? (f : Forest) : Value → Except Error (Option Value)
  | .sequence s => s.first? f
  | v => .ok (some v)
  termination_by structural v => v

/-- The first item of a sequence. -/
def Sequence.first? (f : Forest) : Sequence → Except Error (Option Value)
  | .list items => firstOfList f items
  | .cached inner => inner.first? f
  | .range first last => .ok (if first ≤ last then some (Value.ofInt first.toInt) else none)
  | .evaluated _ evaluations => Value.firstOfWalk (σ := Unit)
      (foldItemsOfEvaluations f .failed (fun _ item => .error (.decided item)) evaluations ())
  | .nodes walk => Value.firstOfWalk (σ := Unit)
      (walk.fold f .failed (fun _ item => .error (.decided item)) ())
  termination_by structural s => s

/-- The first item of the first of several values. -/
def firstOfList (f : Forest) : List Value → Except Error (Option Value)
  | [] => .ok none
  | v :: _ => v.first? f
  termination_by structural vs => vs

end

namespace Value

/-- The truth of a single item: a string is true unless empty, a number unless
zero or NaN, a node always. -/
def isTrue : Value → Bool
  | boolean b => b
  | string s => !s.isEmpty
  | number n => n != 0.0 && !n.isNaN
  | node _ | sequence _ => true

/-- The failure of a sequence that is neither true nor false. -/
def undecided : Error :=
  { code := .FORG0006,
    message := "effective boolean value is undefined for a sequence of several atomic values" }

/-- One item more towards a truth value: a node in front decides, a second atomic
item makes it undefined. -/
def truthStep (seen : Option Value) (item : Value) : Except (Stop Bool) (Option Value) :=
  match seen with
  | some _ => .error (.failed undecided)
  | none => if item.isNode then .error (.decided true) else .ok (some item)

/-- The effective boolean value: of a single item its truth; a sequence is false
when it has no items, true when it begins with a node, and as true as its only
item when that is atomic. -/
def effectiveBoolean (f : Forest) (v : Value) : Except Error Bool :=
  match v with
  | sequence s =>
    match s.foldItems f .failed truthStep none with
    | .ok seen => .ok (seen.any isTrue)
    | .error (.decided b) => .ok b
    | .error (.failed e) => .error e
  | item => .ok item.isTrue

end Value

end Grove

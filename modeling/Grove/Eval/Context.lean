/-
What an expression is evaluated in: the stack of focus entries, the variables,
the functions, and the manager that knows which model a node belongs to.

A function is handed all of it, to read. Of the functions it has what it can do
with them: look one up and call it. Calls that functions make nest `callDepth`
deep at most.
-/
import Grove.Value.Fold

namespace Grove

/-- An item in focus, with its position in the sequence it comes from and the size
of that sequence. -/
structure Focus where
  item : Value
  position : Nat
  size : Nat

/-- What conversions, operators and the built-in functions read of a context. -/
structure Caller where
  forest : Forest
  manager : Option ManagerRef
  focus : Option Focus

namespace Caller

/-- The innermost focus. -/
def focus? (c : Caller) : Except Error Focus :=
  match c.focus with
  | some focus => .ok focus
  | none => .error { code := .XPDY0002, message := "context item is undefined" }

def currentItem (c : Caller) : Except Error Value := c.focus?.map (·.item)

/-- The node in focus, or none if the item in focus is no node. -/
def currentNode (c : Caller) : Except Error (Option NodeHandle) := c.focus?.map (·.item.asNode?)

def position (c : Caller) : Except Error Nat := c.focus?.map (·.position)

def size (c : Caller) : Except Error Nat := c.focus?.map (·.size)

/-- The manager that knows the models of nodes. -/
def manager? (c : Caller) : Except Error ManagerRef :=
  match c.manager with
  | some r => .ok r
  | none => .error { code := .TQDM0001, message := "no tree model manager bound to the context" }

/-- The model a node belongs to. -/
def ownerOf (c : Caller) (h : NodeHandle) : Except Error Model := do
  let r ← c.manager?
  (c.forest.ownerOf r h).mapError Error.ofTree

end Caller

/-- Why no function was found. -/
inductive ResolveError where
  | unknown (name : ExpandedName)
  /-- There are functions of the name, but for other numbers of arguments. -/
  | wrongArity (name : ExpandedName) (available : List Nat)
  deriving DecidableEq, Repr

def ResolveError.toError : ResolveError → Error
  | unknown name => { code := .XPST0017, message := "unknown function " ++ name.text }
  | wrongArity name available =>
    { code := .XPST0017,
      message := "function " ++ name.text ++ " accepts " ++
        ", ".intercalate (available.map Nat.repr) ++ " argument(s)" }

/-- What there is in a context besides functions. -/
structure Setting where
  /-- The focus entries, the innermost first. -/
  focus : List Focus := []
  vars : Table ExpandedName Value := .empty
  manager : Option ManagerRef := none
  /-- Where functions without a namespace are looked up. -/
  defaultFunctionNamespace : Option String := some functionNamespace

/-- What a function can do with the functions of the context of its call. -/
structure FunctionView where
  contains : ExpandedName → Bool
  /-- The function of a name for a number of arguments. It may be called in another
  setting. -/
  resolve : ExpandedName → Nat → Option String →
    Except ResolveError (Setting → List Value → Except Error Value)

/-- What a function sees: the context of its call, and the forest. -/
structure CallSite extends Setting where
  forest : Forest
  functions : FunctionView

/-- What conversions read at the site of a call. -/
def CallSite.caller (s : CallSite) : Caller := ⟨s.forest, s.manager, s.focus.head?⟩

/-- A function of values. -/
abbrev Function := CallSite → List Value → Except Error Value

/-- A function for a range of numbers of arguments. -/
structure Overload where
  minArity : Nat
  /-- There is no largest number of arguments with none. -/
  maxArity : Option Nat
  run : Function

namespace Overload

def accepts (o : Overload) (arity : Nat) : Bool :=
  o.minArity ≤ arity && o.maxArity.all (arity ≤ ·)

/-- The largest number of arguments; the largest machine word stands for none. -/
def bound (o : Overload) : Nat := o.maxArity.getD (Nat.pow 2 64 - 1)

/-- Whether the first is to be tried before the second: the one with the larger
least number of arguments is, and then the one with the smaller bound. -/
def before (a b : Overload) : Bool :=
  b.minArity < a.minArity || (a.minArity == b.minArity && a.bound < b.bound)

/-- The numbers of arguments that are listed when none of them was given. -/
def arities (o : Overload) : List Nat :=
  List.range' o.minArity (o.maxArity.getD o.minArity + 1 - o.minArity)

/-- Puts a function behind those that are to be tried before it or are equal. -/
def insertInto (o : Overload) : List Overload → List Overload
  | [] => [o]
  | p :: rest => if o.before p then o :: p :: rest else p :: o.insertInto rest

end Overload

/-- Functions by name, those of one name in the order in which they are tried. -/
abbrev FunctionRegistry := Table ExpandedName (List Overload)

namespace FunctionRegistry

/-- Adds a function. -/
def register (r : FunctionRegistry) (name : ExpandedName) (minArity : Nat) (maxArity : Option Nat)
    (run : Function) : FunctionRegistry :=
  Table.insert r name (Overload.insertInto ⟨minArity, maxArity, run⟩ ((Table.get? r name).getD []))

/-- The functions tried for a name that was not found as it is: those of the name
in the default namespace, if it has no namespace of its own. -/
def effectiveName (name : ExpandedName) (defaultNamespace : Option String) : ExpandedName :=
  match name.namespaceUri, defaultNamespace with
  | none, some uri => ⟨some uri, name.localName⟩
  | _, _ => name

/-- The function of a name for a number of arguments. A name without namespace is
looked up as it is first, and then in the default namespace. -/
def resolve (r : FunctionRegistry) (name : ExpandedName) (arity : Nat)
    (defaultNamespace : Option String) : Except ResolveError Function :=
  match ((Table.get? r name).getD []).find? (·.accepts arity) with
  | some o => .ok o.run
  | none =>
    let effective := effectiveName name defaultNamespace
    match (Table.get? r effective).or (Table.get? r name) with
    | none => .error (.unknown effective)
    | some overloads =>
      match overloads.find? (·.accepts arity) with
      | some o => .ok o.run
      | none =>
        .error (.wrongArity effective (overloads.flatMap (·.arities)).mergeSort.eraseReps)

/-- The functions as a function of theirs sees them, that may be called with so many calls
nested in theirs. -/
def view (r : FunctionRegistry) (f : Forest) : Nat → FunctionView
  | 0 => {
      contains := Table.contains r
      resolve name arity defaultNamespace :=
        (r.resolve name arity defaultNamespace).map fun _ _ _ =>
          .error { code := .FOER0000, message := "function calls nest too deeply" } }
  | depth + 1 => {
      contains := Table.contains r
      resolve name arity defaultNamespace :=
        (r.resolve name arity defaultNamespace).map fun run s args =>
          run { s with forest := f, functions := r.view f depth } args }

end FunctionRegistry

/-- How deep the calls may nest that functions make. -/
def callDepth : Nat := 4096

/-- What an expression is evaluated in. -/
structure Context extends Setting where
  functions : FunctionRegistry := .empty

namespace Context

def depth (c : Context) : Nat := c.focus.length

def push (c : Context) (f : Focus) : Context := { c with focus := f :: c.focus }

/-- Takes the innermost focus off. -/
def pop (c : Context) : Option Value × Context :=
  match c.focus with
  | [] => (none, c)
  | f :: rest => (some f.item, { c with focus := rest })

/-- Takes focus entries off until at most so many are left. -/
def truncate (c : Context) (depth : Nat) : Context :=
  { c with focus := c.focus.drop (c.focus.length - depth) }

/-- Works with an item in focus, and takes the focus back to its depth afterwards. -/
def within {α : Type} (c : Context) (focus : Focus) (work : Context → α × Context) :
    α × Context :=
  let (result, left) := work (c.push focus)
  (result, left.truncate c.depth)

/-- What conversions and operators read of the context. -/
def caller (c : Context) (f : Forest) : Caller := ⟨f, c.manager, c.focus.head?⟩

/-- What a function sees that is called in the context. -/
def site (c : Context) (f : Forest) : CallSite :=
  { c.toSetting with forest := f, functions := c.functions.view f callDepth }

def lookupVariable (c : Context) (name : ExpandedName) : Except Error Value :=
  match c.vars.get? name with
  | some v => .ok v
  | none => .error (.unboundVariable name.text)

/-- The context with a single item in focus. -/
def withItem (c : Context) (item : Value) : Context := { c with focus := [⟨item, 1, 1⟩] }

def withVariable (c : Context) (name : ExpandedName) (v : Value) : Context :=
  { c with vars := c.vars.insert name v }

def summary (c : Context) : String :=
  Text.summary "EvaluationContext"
    [("focus_depth", Nat.repr c.depth), ("variables", Nat.repr c.vars.size),
      ("manager", Text.truth c.manager.isSome)] false

end Context

/-- A context set aside for later, and a copy to work on that is used again. -/
structure ContextHandle where
  snapshot : Context
  working : Option Context := none

namespace ContextHandle

/-- Takes the working copy, which is the snapshot unless there is one from before. -/
def checkOut (h : ContextHandle) : Context × ContextHandle :=
  (h.working.getD h.snapshot, { h with working := none })

/-- Gives the working copy back, with at most as many focus entries as the snapshot
has. -/
def checkIn (h : ContextHandle) (c : Context) : ContextHandle :=
  { h with working := some (c.truncate h.snapshot.depth) }

/-- Works on the copy. -/
def withContext {α : Type} (h : ContextHandle) (work : Context → α × Context) :
    α × ContextHandle :=
  let (c, h) := h.checkOut
  let (result, c) := work c
  (result, h.checkIn c)

def summary (h : ContextHandle) : String :=
  Text.summary "ContextHandle" [("depth", Nat.repr h.snapshot.depth)] false

end ContextHandle

end Grove

/-
The built-in functions. Of the context of their call they read what a `Caller` shows.
-/
import Grove.Eval.Convert

namespace Grove.Library

/-- The first argument, or the empty sequence. -/
def argument (args : List Value) : Value := args.head?.getD .empty

/-- The first argument, or the item in focus. -/
def argumentOrItem (c : Caller) (args : List Value) : Except Error Value :=
  match args with
  | v :: _ => .ok v
  | [] => c.currentItem

/-- The first item of the first argument, or the item in focus; it must be a
node. -/
def optionalNode (c : Caller) (args : List Value) (function : String) :
    Except Error (Option NodeHandle) := do
  let v ← argumentOrItem c args
  match ← c.first? v with
  | none => .ok none
  | some (.node h) => .ok (some h)
  | some other => .error (.mistyped (function ++ "() expects a node, got " ++ other.typeName))

/-- What is written for the name of a node; empty for no node and for one without
name. -/
def nodeName (c : Caller) (args : List Value) (function : String) (write : QName → String) :
    Except Error Value := do
  match ← optionalNode c args function with
  | none => .ok (.string "")
  | some h => do
    let m ← c.ownerOf h
    let name ← (m.name h).mapError Error.ofTree
    .ok (.string (name.elim "" write))

/-- The node in whose tree identifiers are looked up. -/
def anchor (c : Caller) (args : List Value) : Except Error NodeHandle := do
  let item ← match args with
    | _ :: v :: _ => c.first? v
    | _ => c.currentItem.map some
  match item with
  | some (.node h) => .ok h
  | some other => .error (.mistyped ("id() needs a node, got " ++ other.typeName))
  | none => .error { code := .XPDY0002, message := "id() without a context node" }

/-- The elements that the words of some strings identify, word by word. -/
def identified (m : Model) (texts : List String) : List NodeHandle :=
  texts.flatMap fun s => (Text.words s).filterMap m.elementById

/-- The elements that the words of the items of the first argument identify, in
document order, each once. -/
def id (c : Caller) (args : List Value) : Except Error Value := do
  let items ← (args.head?.map c.flatten).getD (.ok [])
  let h ← anchor c args
  let m ← c.ownerOf h
  let texts ← items.mapM c.stringValue
  .ok (.ofList ((NodeHandle.sortDistinct (identified m texts)).map .node))

/-- The address of an entity of the tree of the node in focus; empty if there is
none of the name. -/
def unparsedEntityUri (c : Caller) (args : List Value) : Except Error Value := do
  let name ← c.stringValue (argument args)
  match ← c.currentNode with
  | none => .error { code := .XPDY0002,
                     message := "unparsed-entity-uri() requires a node as context item" }
  | some h => do
    let m ← c.ownerOf h
    .ok (.string ((m.entityUri name).getD ""))

/-- The items of the first argument. -/
def items (c : Caller) (args : List Value) : Except Error (List Value) := c.flatten (argument args)

/-- A count as a number. -/
def ofCount (n : Nat) : Value := .number (Float.ofNat n)

def sum (c : Caller) (args : List Value) : Except Error Value := do
  let values ← items c args
  let total ← values.foldlM (fun total v => (c.numberValue v).map (total + ·)) 0.0
  .ok (.number total)

def concat (c : Caller) (args : List Value) : Except Error Value := do
  let texts ← args.mapM c.stringValue
  .ok (.string (String.join texts))

/-- The built-in functions: local name, least and greatest number of arguments, and
what they do. -/
def functions : List (String × Nat × Option Nat × (Caller → List Value → Except Error Value)) := [
  ("true", 0, some 0, fun _ _ => .ok (.boolean true)),
  ("false", 0, some 0, fun _ _ => .ok (.boolean false)),
  ("not", 1, some 1, fun c args => do .ok (.boolean !(← c.effectiveBoolean (argument args)))),
  ("boolean", 1, some 1, fun c args => do .ok (.boolean (← c.effectiveBoolean (argument args)))),
  ("string", 0, some 1, fun c args => do
    .ok (.string (← c.stringValue (← argumentOrItem c args)))),
  ("number", 0, some 1, fun c args => do
    .ok (.number (← c.numberValue (← argumentOrItem c args)))),
  ("string-length", 0, some 1, fun c args => do
    .ok (ofCount (← c.stringValue (← argumentOrItem c args)).length)),
  ("count", 1, some 1, fun c args => do .ok (ofCount (← items c args).length)),
  ("empty", 1, some 1, fun c args => do .ok (.boolean (← c.first? (argument args)).isNone)),
  ("exists", 1, some 1, fun c args => do .ok (.boolean (← c.first? (argument args)).isSome)),
  ("concat", 2, none, concat),
  ("sum", 1, some 1, sum),
  ("position", 0, some 0, fun c _ => do .ok (ofCount (← c.position))),
  ("last", 0, some 0, fun c _ => do .ok (ofCount (← c.size))),
  ("name", 0, some 1, fun c args => nodeName c args "name" QName.text),
  ("local-name", 0, some 1, fun c args => nodeName c args "local-name" (·.localName)),
  ("id", 1, some 2, id),
  ("unparsed-entity-uri", 1, some 1, unparsedEntityUri)]

/-- The registry of the built-in functions. -/
def registry : FunctionRegistry :=
  functions.foldl (fun r (name, least, greatest, run) =>
    r.register (ExpandedName.function name) least greatest fun s => run s.caller) .empty

end Grove.Library

/-
Casting items to atomic types, and checking values against types.
-/
import Grove.Eval.Axis
import Grove.Eval.Convert

namespace Grove

/-- The failure of a type that is not known. -/
def unknownType (name : String) : Error :=
  { code := .XPST0051, message := name ++ " is not a known atomic type" }

/-- The failure of a string that is not in the lexical space of a type. -/
def invalidText (s : String) (target : AtomicType) : Error :=
  { code := .FORG0001, message := "cannot cast " ++ Text.quote s ++ " to " ++ target.label }

/-- The failure of an item that is not atomic. -/
def notCastable (v : Value) (what : String) : Error :=
  .mistyped ("cannot cast " ++ v.typeName ++ " to " ++ what)

namespace Value

/-- An atomic item as a string. -/
def castToString : Value → Except Error Value
  | string s => .ok (.string s)
  | number n => .ok (.string (Number.text n))
  | boolean b => .ok (.string (Text.truth b))
  | v => .error (notCastable v "a string")

/-- An atomic item as a truth value. Of strings, `true`, `false`, `1` and `0` have
one, also between blanks. -/
def castToBoolean : Value → Except Error Value
  | boolean b => .ok (.boolean b)
  | number n => .ok (.boolean (number n).isTrue)
  | string s =>
    let t := Text.trim s
    if t == "true" || t == "1" then .ok (.boolean true)
    else if t == "false" || t == "0" then .ok (.boolean false)
    else .error (invalidText s .boolean)
  | v => .error (notCastable v "a boolean")

/-- An atomic item as a double. -/
def castToDouble (target : AtomicType) : Value → Except Error Value
  | number n => .ok (.number n)
  | boolean b => .ok (.number (Number.ofBool b))
  | string s =>
    match Number.ofLexical? (Text.trimChars s.toList) with
    | some n => .ok (.number n)
    | none => .error (invalidText s target)
  | v => .error (notCastable v "a number")

/-- A finite number for an atomic item, where the grammar of strings is given. -/
def castToFinite (target : AtomicType) (grammar : List Char → Bool) : Value → Except Error Float
  | number n =>
    if n.isFinite then .ok n
    else .error { code := .FOCA0002, message := Number.text n ++ " has no " ++ target.label ++ " value" }
  | boolean b => .ok (Number.ofBool b)
  | string s =>
    let t := Text.trimChars s.toList
    if grammar t then .ok (Number.ofDecimalText t) else .error (invalidText s target)
  | v => .error (notCastable v "a number")

/-- An atomic item as an item of an atomic type. -/
def castTo (target : AtomicType) (v : Value) : Except Error Value :=
  match target with
  | .string | .untypedAtomic | .anyUri => v.castToString
  | .boolean => v.castToBoolean
  | .double | .float => v.castToDouble target
  | .decimal => (v.castToFinite target Number.isDecimal).map .number
  | .integer => (v.castToFinite target Number.isInteger).map fun n => .number (Number.truncate n)
  | .anyAtomic => .error (unknownType "xs:anyAtomicType")

/-- Whether an item is of an atomic type. Integers are the finite numbers without a
fractional part. -/
def isInstance (v : Value) (type : AtomicType) : Bool :=
  match type, v with
  | _, .node _ | _, .sequence _ => false
  | .anyAtomic, _ => true
  | .string, .string _ | .untypedAtomic, .string _ | .anyUri, .string _ => true
  | .boolean, .boolean _ => true
  | .double, .number _ | .float, .number _ | .decimal, .number _ => true
  | .integer, .number n => Number.isWhole n
  | _, _ => false

end Value

namespace Caller

/-- Whether an item is of an item type. -/
def itemMatches (c : Caller) (v : Value) (type : ItemType) : Except Error Bool :=
  match type with
  | .item => .ok true
  | .atomic name =>
    match AtomicType.ofQName? name with
    | some atomic => .ok (v.isInstance atomic)
    | none => .error (unknownType name.text)
  | .kind test =>
    match v with
    | .node h => do
      let m ← c.ownerOf h
      (test.accepts m h).mapError Error.ofTree
    | _ => .ok false

end Caller

namespace SequenceType

/-- The atomic type that a value can be cast to, and whether there may be no value:
a known type with the indicator `?` or none. -/
def castTarget (type : SequenceType) : Except Error (AtomicType × Bool) :=
  match type with
  | typed (.atomic name) occurrence =>
    match AtomicType.ofQName? name with
    | none | some .anyAtomic => .error (unknownType name.text)
    | some atomic =>
      match occurrence with
      | .one => .ok (atomic, false)
      | .zeroOrOne => .ok (atomic, true)
      | _ => .error (.malformed ("cast target " ++ type.render ++ " may only carry the '?' indicator"))
  | _ => .error (unknownType type.render)

/-- Casts the items of a value. There has to be one, or none if the type allows. -/
def castItems (type : SequenceType) (target : AtomicType) (optional : Bool) (c : Caller)
    (items : List Value) : Except Error Value :=
  match items with
  | [] =>
    if optional then .ok .empty
    else .error (.mistyped ("cast as " ++ type.render ++ " needs a single item, got 0"))
  | [item] => do
    let atom ← c.atomize item
    atom.castTo target
  | items => .error (.mistyped
      ("cast as " ++ type.render ++ " needs a single item, got " ++ Nat.repr items.length))

/-- The failure of a value that is not of the type it is treated as. -/
def mismatch (type : SequenceType) (why : String) : Error :=
  { code := .XPDY0050, message := "treat as " ++ type.render ++ ": " ++ why }

/-- Fails if the atomic type of a sequence type is not known. -/
def checkKnown (type : SequenceType) : Except Error Unit :=
  match type with
  | typed (.atomic name) _ =>
    if (AtomicType.ofQName? name).isNone then .error (unknownType name.text) else .ok ()
  | _ => .ok ()

/-- Fails at the first item that is not of an item type. -/
def checkItems (type : SequenceType) (itemType : ItemType) (c : Caller) :
    List Value → Except Error Unit
  | [] => .ok ()
  | v :: vs => do
    if ← c.itemMatches v itemType then checkItems type itemType c vs
    else .error (type.mismatch (v.typeName ++ " does not match " ++ itemType.render))

/-- Fails if the items are not of the type. -/
def check (type : SequenceType) (c : Caller) (items : List Value) : Except Error Unit :=
  match type with
  | emptySequence =>
    if items.isEmpty then .ok ()
    else .error (type.mismatch ("expected no items, got " ++ Nat.repr items.length))
  | typed itemType occurrence =>
    if occurrence.allows items.length then type.checkItems itemType c items
    else .error (type.mismatch
      (Nat.repr items.length ++ " item(s) do not satisfy the occurrence indicator"))

end SequenceType

end Grove

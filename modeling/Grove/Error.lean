/-
Failures. `TreeError` is what building, extending and looking up trees can
report; `Error` is what an expression can report, a code and a message, with
the tree failure behind it if there is one.
-/
import Grove.Handle

namespace Grove

theorem map_eq_ok_iff {ε α β : Type} {x : Except ε α} {f : α → β} {b : β} :
    x.map f = .ok b ↔ ∃ a, x = .ok a ∧ f a = b := by
  cases x <;> simp [Except.map]

/-- A failure of the trees and of their managers. -/
inductive TreeError where
  /-- No implementation or no build events could be found. -/
  | configuration (detail : String)
  | invalidHandle (handle : NodeHandle)
  | unsupported (detail : String)
  /-- The build events are unbalanced or out of order. -/
  | malformed (detail : String)
  deriving DecidableEq, Repr

/-- The name of the kind of failure. -/
def TreeError.kind : TreeError → String
  | configuration _ => "Configuration"
  | invalidHandle _ => "InvalidHandle"
  | unsupported _ => "UnsupportedOperation"
  | malformed _ => "MalformedEvents"

def TreeError.message : TreeError → String
  | configuration detail => "tree model configuration error: " ++ detail
  | invalidHandle handle => "node handle " ++ handle.text ++ " does not resolve to a known tree model"
  | unsupported detail => "unsupported operation: " ++ detail
  | malformed detail => "malformed build event stream: " ++ detail

/-- The code of a failure. Codes that start with TQ concern trees and cursors,
the others are codes of the expression language. -/
inductive ErrorCode where
  /-- A malformed expression. -/
  | XPST0003
  /-- A variable without value. -/
  | XPST0008
  /-- An unknown function or a wrong number of arguments. -/
  | XPST0017
  /-- An unknown or non-atomic type. -/
  | XPST0051
  /-- An operand of the wrong type or number of items. -/
  | XPTY0004
  /-- A path step that is applied to something other than nodes. -/
  | XPTY0019
  /-- An axis step without a node as context item. -/
  | XPTY0020
  /-- No context item. -/
  | XPDY0002
  /-- A value that is not of the type it is treated as. -/
  | XPDY0050
  /-- A division by zero. -/
  | FOAR0001
  /-- A number without integer value. -/
  | FOCA0002
  /-- A value that cannot be cast. -/
  | FORG0001
  /-- A sequence without effective boolean value. -/
  | FORG0006
  /-- An unidentified failure. -/
  | FOER0000
  /-- A failure of the configuration of trees. -/
  | TQDM0001
  /-- A handle of no known tree. -/
  | TQDM0002
  /-- An operation that a tree or a cursor does not support. -/
  | TQSQ0001
  deriving DecidableEq, Repr

namespace ErrorCode

/-- The namespace of the codes of the expression language. -/
def codeNamespace : String := "http://www.w3.org/2005/xqt-errors"

def all : List ErrorCode :=
  [XPST0003, XPST0008, XPST0017, XPST0051, XPTY0004, XPTY0019, XPTY0020, XPDY0002, XPDY0050,
    FOAR0001, FOCA0002, FORG0001, FORG0006, FOER0000, TQDM0001, TQDM0002, TQSQ0001]

/-- The code without namespace. -/
def name : ErrorCode → String
  | XPST0003 => "XPST0003"
  | XPST0008 => "XPST0008"
  | XPST0017 => "XPST0017"
  | XPST0051 => "XPST0051"
  | XPTY0004 => "XPTY0004"
  | XPTY0019 => "XPTY0019"
  | XPTY0020 => "XPTY0020"
  | XPDY0002 => "XPDY0002"
  | XPDY0050 => "XPDY0050"
  | FOAR0001 => "FOAR0001"
  | FOCA0002 => "FOCA0002"
  | FORG0001 => "FORG0001"
  | FORG0006 => "FORG0006"
  | FOER0000 => "FOER0000"
  | TQDM0001 => "TQDM0001"
  | TQDM0002 => "TQDM0002"
  | TQSQ0001 => "TQSQ0001"

/-- Whether the code belongs to the expression language and so to
`codeNamespace`. -/
def isStandard : ErrorCode → Bool
  | TQDM0001 | TQDM0002 | TQSQ0001 => false
  | _ => true

/-- The code as written, with the qualifier `err` if it is a standard one. -/
def text (c : ErrorCode) : String := if c.isStandard then "err:" ++ c.name else c.name

/-- Reads a code, with or without the qualifier `err`. -/
def ofText? (s : String) : Option ErrorCode :=
  let name := match s.toList with
    | 'e' :: 'r' :: 'r' :: ':' :: rest => String.ofList rest
    | _ => s
  all.find? (·.name == name)

end ErrorCode

/-- A failure of an expression. -/
structure Error where
  code : ErrorCode
  message : String
  /-- The tree failure behind it. -/
  cause : Option TreeError := none
  deriving DecidableEq, Repr

namespace Error

/-- An operation that the value does not support. -/
def unsupported (message : String) : Error := { code := .TQSQ0001, message }

/-- A variable without value. -/
def unboundVariable (name : String) : Error :=
  { code := .XPST0008, message := "variable $" ++ name ++ " is not bound" }

/-- A malformed expression. -/
def malformed (message : String) : Error := { code := .XPST0003, message }

/-- A value of the wrong type. -/
def mistyped (message : String) : Error := { code := .XPTY0004, message }

def isUnsupported (e : Error) : Bool := e.code == .TQSQ0001

/-- Message and code. -/
def text (e : Error) : String := "error: " ++ e.message ++ " (" ++ e.code.text ++ ")"

/-- A failure of a tree, as the failure of the expression that met it. -/
def ofTree (e : TreeError) : Error where
  code := match e with
    | .configuration _ => .TQDM0001
    | .invalidHandle _ => .TQDM0002
    | .unsupported _ => .TQSQ0001
    | .malformed _ => .FOER0000
  message := e.message
  cause := some e

end Error

end Grove

/-
Build events: what a reader of documents reports while it reads one.
-/
import Grove.Name

namespace Grove

/-- An attribute of an element that starts. -/
structure AttributeEvent where
  name : QName
  value : String
  /-- Whether the attribute is declared to identify its element. -/
  isId : Bool := false
  deriving DecidableEq, Repr

/-- A namespace that an element declares as it starts. -/
structure BindingEvent where
  qualifier : Option String
  uri : String
  deriving DecidableEq, Repr

/-- One report of a reader. -/
inductive BuildEvent where
  | startDocument (baseUri : Option String)
  | endDocument
  | startElement (name : QName) (attributes : List AttributeEvent) (bindings : List BindingEvent)
  | endElement
  | characters (text : String)
  | comment (text : String)
  | instruction (target data : String)
  /-- The declaration of an entity that is not parsed. -/
  | entity (name : String) (publicId : Option String) (systemId : String)
      (notationName : Option String)
  deriving DecidableEq, Repr

end Grove

/-
Small documents written down as values, and the build events a reader would
report for them.
-/
import Grove.Tree.Event

namespace Grove

/-- What can stand in an element or in a document. -/
inductive Content where
  | element (name : QName) (attributes : List AttributeEvent) (bindings : List BindingEvent)
      (children : List Content)
  | text (value : String)
  | comment (value : String)
  | instruction (target data : String)

namespace Content

mutual

/-- The events of a piece of content. -/
def events : Content → List BuildEvent
  | .element name attributes bindings children =>
    .startElement name attributes bindings :: (listEvents children ++ [.endElement])
  | .text value => [.characters value]
  | .comment value => [.comment value]
  | .instruction target data => [.instruction target data]
  termination_by structural c => c

/-- The events of several pieces of content. -/
def listEvents : List Content → List BuildEvent
  | [] => []
  | c :: cs => events c ++ listEvents cs
  termination_by structural cs => cs

end

/-- An element with a written name. -/
def named (name : String) (attributes : List AttributeEvent) (bindings : List BindingEvent)
    (children : List Content) : Content :=
  .element (QName.ofText name) attributes bindings children

end Content

/-- An attribute with a written name. -/
def AttributeEvent.named (name value : String) : AttributeEvent :=
  { name := QName.ofText name, value }

/-- An attribute with a written name that is declared to identify its element. -/
def AttributeEvent.identifying (name value : String) : AttributeEvent :=
  { name := QName.ofText name, value, isId := true }

/-- A declared namespace. -/
def BindingEvent.of (qualifier uri : String) : BindingEvent := ⟨some qualifier, uri⟩

/-- The declaration of an entity by name and system identifier. -/
def BuildEvent.namedEntity (name systemId : String) : BuildEvent :=
  .entity name none systemId none

/-- A whole document. -/
structure DocumentContent where
  baseUri : Option String := none
  /-- Declarations, reported before the content. -/
  entities : List BuildEvent := []
  children : List Content := []

/-- The events of a document: its start, the declarations, the content, its end. -/
def DocumentContent.events (d : DocumentContent) : List BuildEvent :=
  .startDocument d.baseUri :: (d.entities ++ Content.listEvents d.children ++ [.endDocument])

end Grove

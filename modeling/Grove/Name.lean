/-
Qualified names, as written with an optional qualifier before a colon, and
expanded names, in which the namespace stands in place of the qualifier.
-/

namespace Grove

/-- The namespace of the reserved qualifier `xml`. -/
def xmlNamespace : String := "http://www.w3.org/XML/1998/namespace"

/-- The namespace of the built-in functions. -/
def functionNamespace : String := "http://www.w3.org/2005/xpath-functions"

/-- The namespace of the built-in atomic types. -/
def schemaNamespace : String := "http://www.w3.org/2001/XMLSchema"

/-- A name as written: a local name with an optional qualifier, and the
namespace it is bound to, if any. -/
structure QName where
  qualifier : Option String
  localName : String
  namespaceUri : Option String
  deriving DecidableEq, Repr

namespace QName

/-- A name without qualifier and namespace. -/
def plain (localName : String) : QName := ⟨none, localName, none⟩

/-- A name in a namespace. -/
def bound (qualifier localName namespaceUri : String) : QName :=
  ⟨some qualifier, localName, some namespaceUri⟩

/-- Reads a written name: what stands before the first colon is the qualifier.
Only the reserved qualifier `xml` is bound to a namespace by this. -/
def ofText (s : String) : QName :=
  match s.toList.dropWhile (· != ':') with
  | [] => plain s
  | _ :: rest =>
    let qualifier := String.ofList (s.toList.takeWhile (· != ':'))
    let localName := String.ofList rest
    if qualifier == "xml" then bound qualifier localName xmlNamespace
    else ⟨some qualifier, localName, none⟩

/-- The name as written. -/
def text (q : QName) : String :=
  match q.qualifier with
  | some qualifier => qualifier ++ ":" ++ q.localName
  | none => q.localName

/-- Whether two names have the same local name and namespace; qualifiers do not
count. -/
def sameName (q r : QName) : Bool :=
  q.localName == r.localName && q.namespaceUri == r.namespaceUri

/-- Whether the name is `xml:id`, by its namespace or by its qualifier. -/
def isXmlId (q : QName) : Bool :=
  q.localName == "id" && (q.namespaceUri == some xmlNamespace || q.qualifier == some "xml")

end QName

/-- A name by namespace and local name. -/
structure ExpandedName where
  namespaceUri : Option String
  localName : String
  deriving DecidableEq, Repr

namespace ExpandedName

/-- A name in the namespace of the built-in functions. -/
def function (localName : String) : ExpandedName := ⟨some functionNamespace, localName⟩

/-- The expanded form of a qualified name. An unbound name with qualifier `fn`
or `xs` is taken to be in the namespace of functions or of atomic types. -/
def ofQName (q : QName) : ExpandedName where
  namespaceUri := match q.namespaceUri, q.qualifier with
    | some uri, _ => some uri
    | none, some "fn" => some functionNamespace
    | none, some "xs" => some schemaNamespace
    | none, _ => none
  localName := q.localName

/-- The name with its namespace in braces. -/
def text (n : ExpandedName) : String :=
  match n.namespaceUri with
  | some uri => "Q\x7b" ++ uri ++ "\x7d" ++ n.localName
  | none => n.localName

end ExpandedName

end Grove

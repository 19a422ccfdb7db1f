/-!
# Element Trees

A message is judged as a tree of elements whose names carry the namespace they
belong to, so that the choice of prefixes does not matter. What was written is
kept beside what it means: a name remembers its prefix, and an element the
namespace declarations made on its tag.

Text is kept in the pieces in which it was found; `Element.text` joins the
pieces that stand directly in an element.

## Main definitions

* `QName`: A name with its prefix and namespace.
* `Tag`: Name, attributes and declarations.
* `Node`, `Element`: The trees.
* `Element.self`: The element and all below it, in document order.
* `Element.attribute?`, `Element.child?`, `Element.text`: Access by name.
-/

namespace SamlConformance

namespace Xml

/-- A name as written, with the namespace its prefix stands for. -/
structure QName where
  /-- The namespace; none for names in no namespace. -/
  uri : Option String
  /-- The prefix as written. -/
  nsPrefix : Option String
  /-- The part after the prefix. -/
  localName : String
deriving Repr, DecidableEq

/-- The name in writing. -/
def QName.written (n : QName) : String :=
  match n.nsPrefix with
  | some p => p ++ ":" ++ n.localName
  | none => n.localName

/-- The name is the local name `name` of the namespace `uri`. -/
def QName.is (n : QName) (uri name : String) : Bool :=
  n.localName == name && n.uri == some uri

/-- An attribute that declares no namespace. -/
structure Attribute where
  /-- Its name. -/
  name : QName
  /-- Its value without escapes. -/
  value : String
deriving Repr, DecidableEq

/-- A namespace declared for a prefix, or for names without one. -/
structure Declaration where
  /-- The prefix declared. -/
  nsPrefix : Option String
  /-- The namespace without escapes; empty if the prefix is withdrawn. -/
  uri : String
deriving Repr, DecidableEq

/-- What stands in the tag that opens an element. -/
structure Tag where
  /-- The name of the element. -/
  name : QName
  /-- Its attributes in document order. -/
  attributes : List Attribute := []
  /-- The namespaces it declares, in document order. -/
  declarations : List Declaration := []
deriving Repr, DecidableEq

/-- A piece of content. -/
inductive Node where
  /-- Character data without escapes. -/
  | text (content : String)
  /-- An element with its content. -/
  | element (tag : Tag) (children : List Node)
deriving Repr

/-- An element with its content. -/
structure Element where
  /-- Its tag. -/
  tag : Tag
  /-- Its content in document order. -/
  children : List Node
deriving Repr

/-- The text directly in a list of nodes. -/
def textOf (nodes : List Node) : String :=
  String.join (nodes.filterMap fun
    | .text s => some s
    | .element .. => none)

/-- The elements directly in a list of nodes. -/
def elementsOf (nodes : List Node) : List Element :=
  nodes.filterMap fun
    | .text _ => none
    | .element t cs => some ⟨t, cs⟩

mutual

/-- The elements of a node, itself first, in document order. -/
def Node.elements : Node → List Element
  | .text _ => []
  | .element t cs => ⟨t, cs⟩ :: Node.elementsOfAll cs

/-- The elements of several nodes in document order. -/
def Node.elementsOfAll : List Node → List Element
  | [] => []
  | n :: ns => n.elements ++ Node.elementsOfAll ns

end

namespace Element

/-- The element as a piece of content. -/
def node (e : Element) : Node := .element e.tag e.children

/-- The element is `name` of the namespace `uri`. -/
def is (e : Element) (uri name : String) : Bool :=
  e.tag.name.is uri name

/-- The name in writing. -/
def written (e : Element) : String :=
  e.tag.name.written

/-- The value of the first attribute of that name in no namespace. -/
def attribute? (e : Element) (name : String) : Option String :=
  (e.tag.attributes.find? fun a => a.name.uri == none && a.name.localName == name).map
    Attribute.value

/-- The value of the first attribute of that name in a namespace. -/
def attributeIn? (e : Element) (uri name : String) : Option String :=
  (e.tag.attributes.find? fun a => a.name.is uri name).map Attribute.value

/-- The elements directly below. -/
def elements (e : Element) : List Element :=
  elementsOf e.children

/-- The elements of one name directly below. -/
def childrenNamed (e : Element) (uri name : String) : List Element :=
  e.elements.filter fun c => c.is uri name

/-- The first element of one name directly below. -/
def child? (e : Element) (uri name : String) : Option Element :=
  e.elements.find? fun c => c.is uri name

/-- Some element of that name stands directly below. -/
def hasChild (e : Element) (uri name : String) : Bool :=
  (e.child? uri name).isSome

/-- All elements below, in document order. -/
def descendants (e : Element) : List Element :=
  Node.elementsOfAll e.children

/-- The elements of one name anywhere below. -/
def descendantsNamed (e : Element) (uri name : String) : List Element :=
  e.descendants.filter fun c => c.is uri name

/-- The element and all below it, in document order. -/
def self (e : Element) : List Element :=
  e :: e.descendants

/-- The text directly in the element. -/
def text (e : Element) : String :=
  textOf e.children

/-- The first element, itself included, that carries an identifier. -/
def withId? (e : Element) (id : String) : Option Element :=
  e.self.find? fun c => c.attribute? "ID" == some id

end Element

end Xml

end SamlConformance

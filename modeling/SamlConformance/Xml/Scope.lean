import SamlConformance.Xml.Tree
import SamlConformance.Xml.Attributes

/-!
# Namespaces in Scope

A prefix stands for the namespace that the nearest tag around it declares. A
scope lists the declarations in force, the nearest first; the empty prefix
stands for names without one. Namespaces are compared as they are written, with
references unresolved.

The prefixes `xml` and `xmlns` are always bound, and neither they nor their
namespaces may be declared otherwise.

## Main definitions

* `Scope`: The declarations in force.
* `declaredPrefix?`: What an attribute declares, if anything.
* `Scope.extend`: The scope inside a tag.
* `Scope.resolve`: A written name with its namespace.
-/

namespace SamlConformance

namespace Xml

/-- The namespaces in force by prefix, the nearest declaration first. -/
abbrev Scope := List (List Char × List Char)

/-- What holds outside of all elements. -/
def Scope.outermost : Scope :=
  [("xml".toList, xmlNamespace.toList), ("xmlns".toList, xmlnsNamespace.toList)]

/-- The prefix an attribute of that name declares a namespace for; none inside
for names without prefix. -/
def declaredPrefix? (key : List Char) : Option (Option (List Char)) :=
  if "xmlns".toList.isPrefixOf key then
    match key.drop 5 with
    | [] => some none
    | c :: p => if c = ':' then some (some p) else none
  else none

namespace Scope

/-- The scope with one more declaration. -/
def declare (scope : Scope) (nsPrefix : Option (List Char)) (uri : List Char) :
    Except DeclarationFault Scope :=
  match nsPrefix with
  | none => .ok (([], uri) :: scope)
  | some p =>
    if p = "xml".toList then
      if uri = Xml.xmlNamespace.toList then .ok scope else .error (.xmlRebound uri)
    else if p = "xmlns".toList then .error (.xmlnsBound uri)
    else if uri = Xml.xmlNamespace.toList then .error (.xmlNamespace p)
    else if uri = Xml.xmlnsNamespace.toList then .error (.xmlnsNamespace p)
    else .ok ((p, uri) :: scope)

/-- The scope inside a tag that sets the given attributes. -/
def extend (scope : Scope) : List (List Char × List Char) → Except DeclarationFault Scope
  | [] => .ok scope
  | (key, value) :: rest =>
    match declaredPrefix? key with
    | none => extend scope rest
    | some p =>
      match scope.declare p value with
      | .error f => .error f
      | .ok scope' => extend scope' rest

/-- The namespace of names without prefix; the empty namespace is none. -/
def default? (scope : Scope) : Option (List Char) :=
  match scope.lookup [] with
  | some (c :: uri) => some (c :: uri)
  | _ => none

/-- The namespace a prefix is bound to. An empty prefix never is, and an empty
namespace unbinds. -/
def bound? (scope : Scope) : List Char → Option (List Char)
  | [] => none
  | p =>
    match scope.lookup p with
    | some (c :: uri) => some (c :: uri)
    | _ => none

/-- A written name with its namespace. Names without prefix are in the default
namespace where `useDefault` says so, and in none otherwise. -/
def resolve (scope : Scope) (useDefault : Bool) (written : List Char) : Except Error QName :=
  match Text.cutFirst ':' written with
  | (name, none) =>
    let uri := if useDefault then scope.default? else none
    .ok ⟨uri.map String.ofList, none, String.ofList name⟩
  | (p, some name) =>
    match scope.bound? p with
    | none => .error (.unknownPrefix (String.ofList p))
    | some uri => .ok ⟨some (String.ofList uri), some (String.ofList p), String.ofList name⟩

end Scope

end Xml

end SamlConformance

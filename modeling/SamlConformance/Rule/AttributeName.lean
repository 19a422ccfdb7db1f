import SamlConformance.Rule.Basic
import SamlConformance.Rule.Repetition
import SamlConformance.Saml.Parts
import SamlConformance.Unicode.Letters
import SamlConformance.Uri.Absolute

/-!
# Names of Attributes

An attribute of a subject is named by a text and the format of that text. No
query asks for one name twice, and a name has the shape its format promises.

## Main definitions

* `AttributeName.isXmlName`: The shape of simple names.
* `AttributeName.queryFault?`: A query that asks for one name twice.
* `AttributeName.formatFault?`: A name that breaks its promise.
-/

namespace SamlConformance

namespace AttributeName

open Xml (Element)

/-- A character that can start a simple name. -/
def isNameStart (c : Char) : Bool :=
  Unicode.isAlphabetic c || c == '_' || c == ':'

/-- A character inside a simple name. -/
def isNameChar (c : Char) : Bool :=
  Unicode.isAlphanumeric c || c == '.' || c == '-' || c == '_' || c == ':'

/-- A simple name. -/
def isXmlName (s : String) : Bool :=
  match s.toList with
  | [] => false
  | c :: cs => isNameStart c && cs.all isNameChar

/-- What a queried attribute is known by. -/
def identity (a : Element) : String × String :=
  ((a.attribute? "Name").getD "",
    (a.attribute? "NameFormat").getD Saml.unspecifiedNameFormat)

/-- The violation of a query that asks for one name twice. -/
def queryFault? (query : Element) : Option Violation :=
  (repeatedValues ((query.childrenNamed Saml.assertionNs "Attribute").map identity)).head?.map
    fun (name, format) =>
      (Violation.of .core_3_3_2_3_a ("The <AttributeQuery> contains more than one <Attribute>" ++
        s!" with Name [{name}] and NameFormat [{format}].")).shownAt query

/-- Looks at all attribute queries. -/
def checkQueries (r : Reply) : Outcome :=
  .ofFailure ((r.root.self.filter fun e => e.is Saml.protocolNs "AttributeQuery").findSome?
    queryFault?)

/-- The clause that a name breaches by not having the shape its format promises. -/
def broken? (name format : String) : Option Clause :=
  if format = Saml.uriNameFormat then
    if Uri.isAbsolute name then none else some .core_8_2_2_a
  else if format = Saml.basicNameFormat then
    if isXmlName name then none else some .core_8_2_3_a
  else none

/-- The violation of an attribute whose name breaks the promise of its format. -/
def formatFault? (a : Element) : Option Violation := do
  let name ← a.attribute? "Name"
  let format ← a.attribute? "NameFormat"
  let clause ← broken? name format
  return (Violation.of clause
    s!"Attribute name [{name}] does not match its declared format [{format}].").shownAt a

/-- Looks at the names of all attributes. -/
def checkFormats (r : Reply) : Outcome :=
  .ofFailure ((r.root.descendantsNamed Saml.assertionNs "Attribute").findSome? formatFault?)

/-- The rules. -/
def rules : List Rule :=
  [⟨"attribute_query", checkQueries⟩, ⟨"attribute_name_formats", checkFormats⟩]

end AttributeName

end SamlConformance

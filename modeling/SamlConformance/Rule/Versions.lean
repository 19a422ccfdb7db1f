import SamlConformance.Rule.Basic
import SamlConformance.Saml.Parts

/-!
# Versions

A message belongs to version 2.0 in two ways: its document element says so, and
so do the namespaces it uses.

## Main definitions

* `Versions.statedVersion`: The stated version is the right one.
* `Versions.namespaceVersion`: No namespace is of an earlier version.
-/

namespace SamlConformance

namespace Versions

/-- The version the document element states, if it is not blank, is the right
one. -/
def statedVersion (r : Reply) : Outcome :=
  match r.root.attribute? "Version" with
  | none => .clean
  | some version =>
    if Text.allBlank version || version == Saml.version then .clean
    else
      .report [(Violation.mismatch .core_4_1_2_a "Version" (some version)
        Saml.version).shownAt r.root]

/-- The namespace is of the right version. -/
def isCurrent (uri : String) : Bool :=
  Text.occursIn Saml.version uri

/-- The namespace is of an earlier version. -/
def isOutdated (uri : String) : Bool :=
  Saml.earlierNamespaces.contains uri || Text.occursIn "SAML" uri && !isCurrent uri

/-- The first element of an outdated namespace. -/
def outdated? (root : Xml.Element) : Option Xml.Element :=
  root.self.find? fun e => e.tag.name.uri.any isOutdated

/-- The document element is of a current namespace, and none is outdated. -/
def namespaceVersion (r : Reply) : Outcome :=
  if r.root.tag.name.uri.any isCurrent && (outdated? r.root).isNone then .clean
  else
    .report [(Violation.of .core_4_2_a
      "A namespace URI with an incorrect version was found.").shownAt
        ((outdated? r.root).getD r.root)]

/-- The rules. -/
def rules : List Rule := [⟨"versioning", statedVersion⟩, ⟨"namespaces", namespaceVersion⟩]

end Versions

end SamlConformance

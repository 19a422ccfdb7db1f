import SamlConformance.Rule.Assertion
import SamlConformance.Rule.AttributeName
import SamlConformance.Rule.DataTypes
import SamlConformance.Rule.Identifier
import SamlConformance.Rule.Logout
import SamlConformance.Rule.SignOn
import SamlConformance.Rule.SignatureReference
import SamlConformance.Rule.StatusResponse
import SamlConformance.Rule.Transport
import SamlConformance.Rule.Versions

/-!
# Groups of Rules

The rules in the groups in which they run: one for each layer of the
specification. A failure ends its group only, so that trouble on one layer does
not hide what is wrong on another.

## Main definitions

* `RuleGroup.core`, `RuleGroup.protocol`, `RuleGroup.profile`, `RuleGroup.binding`:
  The groups.
* `RuleGroup.groups`: All that apply to a message, by its binding.
-/

namespace SamlConformance

namespace RuleGroup

/-- The rules about assertions and common types. -/
def core : RuleGroup where
  name := "core"
  sections := [[1, 3], [2, 3], [2, 5], [2, 7], [3, 3], [4, 1], [4, 2], [5, 4], [8, 2], [8, 3]].map
    (Section.mk .core)
  rules := [DataTypes.rule] ++ Versions.rules ++ [SignatureReference.rule] ++ Assertion.rules ++
    AttributeName.rules ++ Identifier.rules

/-- The rules about requests and responses. -/
def protocol : RuleGroup where
  name := "protocol"
  sections := [[3, 2], [3, 4], [3, 7]].map (Section.mk .core)
  rules := StatusResponse.rules ++ [Logout.protocolRule]

/-- The rules about sign-on and logout. -/
def profile : RuleGroup where
  name := "profile"
  sections := [[4, 1], [4, 4]].map (Section.mk .profiles)
  rules := SignOn.rules ++ Logout.profileRules

/-- The rules about the binding on which a message arrived. -/
def binding : Saml.Binding → RuleGroup
  | .redirect => ⟨"binding", [⟨.bindings, [3, 4]⟩], Transport.redirectRules⟩
  | .post => ⟨"binding", [⟨.bindings, [3, 5]⟩], Transport.postRules⟩

/-- All groups in the order in which they run. -/
def groups (b : Saml.Binding) : List RuleGroup :=
  [core, protocol, profile, binding b]

end RuleGroup

end SamlConformance

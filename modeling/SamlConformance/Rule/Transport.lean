import SamlConformance.Coding.Percent
import SamlConformance.Rule.Basic
import SamlConformance.Rule.Values
import SamlConformance.Saml.Parts

/-!
# Bindings

The rules about the way a message travelled: the status of the transport, the
relay state, the encoding, and the address a signed message is meant for. All of
them report and none fails, so that each is judged whatever the others found.

The values of a query are compared as form data, in which a plus sign stands for
a space. A provider that returns the relay state without encoding it is told so.

## Main definitions

* `Transport.redirectRules`: The rules for redirects.
* `Transport.postRules`: The rules for forms.
-/

namespace SamlConformance

namespace Transport

open Xml (Element)

/-- The text form data stand for; none if the bytes encode no text. -/
def formText? (value : String) : Option String :=
  match Percent.decodeForm value with
  | .ok s => some s
  | .error _ => none

/-- What is wrong with the address a signed message is meant for. -/
def destinationFindings (r : Reply) (c : Clause) : List Violation :=
  let destination := r.root.attribute? "Destination"
  if destination = some r.request.acsUrl then []
  else [(Violation.mismatch c "Destination" destination r.request.acsUrl).shownAt r.root]

/-- What is wrong with the length of a relay state. -/
def lengthFindings (relayState : String) (c : Clause) : List Violation :=
  let n := relayState.utf8ByteSize
  if n > Saml.relayStateLimit then
    [.of c s!"RelayState value of [{relayState}] is {n} bytes, longer than {Saml.relayStateLimit}."]
  else []

/-- The finding that a relay state was not returned, if one was given. -/
def missingFindings (given : Bool) (c : Clause) : List Violation :=
  if given then [.of c "RelayState not found."] else []

/-- A redirect has a status of redirection. -/
def redirectStatus (r : Reply) : Outcome :=
  let status := r.message.received.status
  if status = 302 ∨ status = 303 then .clean
  else
    .report [.mismatch .bindings_3_4_6_a "HTTP Status Code" (some (toString status)) "302 or 303"]

/-- What is wrong with a relay state that is returned other than it was given. -/
def redirectEchoFindings (raw decoded expected : String) : List Violation :=
  if decoded = expected then []
  else if raw = expected then
    [.of .bindings_3_4_4_1_d s!"RelayState [{raw}] was not URL encoded."]
  else [.mismatch .bindings_3_4_3_b "RelayState" (some decoded) expected]

/-- What is wrong with a relay state that a query has, or has not, where one was or
was not given. -/
def relayStateOutcome (relayState : Option String) (given : Bool) (expected : String) : Outcome :=
  match relayState with
  | none => .report (missingFindings given .bindings_3_4_3_b)
  | some raw =>
    match formText? raw with
    | none =>
      .report [.of .bindings_3_4_4_1_d s!"RelayState [{raw}] could not be URL decoded."]
    | some decoded =>
      .report (lengthFindings decoded .bindings_3_4_3_a ++
        if given then redirectEchoFindings raw decoded expected else [])

/-- What is wrong with the relay state in a query. -/
def redirectRelayState (r : Reply) : Outcome :=
  relayStateOutcome (r.message.received.get? .relayState) r.relayStateGiven r.request.relayState

/-- What is wrong with the encoding a query names; one that is no form data is
judged as it stands. -/
def redirectEncoding (r : Reply) : Outcome :=
  match r.message.received.get? .encoding with
  | none => .clean
  | some raw =>
    .report (Values.uriFindings (some ((formText? raw).getD raw)) (some .bindings_3_4_4_a))

/-- A redirect is signed beside the document, not inside. -/
def redirectSignature (r : Reply) : Outcome :=
  match r.root.child? Saml.signatureNs "Signature" with
  | none => .clean
  | some signature =>
    .report [(Violation.of .bindings_3_4_4_1_a "Signature element found.").shownAt signature]

/-- A signed redirect says whom it is meant for. -/
def redirectDestination (r : Reply) : Outcome :=
  if r.message.hasQuerySignature then .report (destinationFindings r .bindings_3_4_5_2_a)
  else .clean

/-- A form arrives with a status that is no error. -/
def postStatus (r : Reply) : Outcome :=
  let status := r.message.received.status
  if status < 400 then .clean
  else .report [.of .bindings_3_5_6_a s!"HTTP Status Code [{status}] is an error status."]

/-- What is wrong with the relay state in a form. -/
def postRelayState (r : Reply) : Outcome :=
  match r.message.received.get? .relayState with
  | none => .report (missingFindings r.relayStateGiven .bindings_3_5_3_b)
  | some value =>
    .report (lengthFindings value .bindings_3_5_3_a ++
      if r.relayStateGiven && value != r.request.relayState then
        [.mismatch .bindings_3_5_3_b "RelayState" (some value) r.request.relayState]
      else [])

/-- A form with any signature in its document says whom it is meant for. -/
def postDestination (r : Reply) : Outcome :=
  if (r.root.descendantsNamed Saml.signatureNs "Signature").isEmpty then .clean
  else .report (destinationFindings r .bindings_3_5_5_2_a)

/-- The rules for redirects. -/
def redirectRules : List Rule :=
  [ ⟨"redirect_status", redirectStatus⟩,
    ⟨"redirect_relay_state", redirectRelayState⟩,
    ⟨"redirect_encoding", redirectEncoding⟩,
    ⟨"redirect_signature", redirectSignature⟩,
    ⟨"redirect_destination", redirectDestination⟩ ]

/-- The rules for forms. -/
def postRules : List Rule :=
  [ ⟨"post_status", postStatus⟩,
    ⟨"post_relay_state", postRelayState⟩,
    ⟨"post_destination", postDestination⟩ ]

end Transport

end SamlConformance

import SamlConformance.Message.Fields
import SamlConformance.Saml.Vocabulary

/-!
# Received Responses

What was captured of a response of the identity provider, before anything is
decoded. The payload is the field that carries the message; if both kinds of
message are present, the response counts.

## Main definitions

* `MessageKind`: Request or response.
* `Received`: A captured response.
* `Received.payload?`: The payload field with its kind.
-/

namespace SamlConformance

/-- The kind of message that a payload field carries. -/
inductive MessageKind where
  /-- A request, such as a logout request of the provider. -/
  | request
  /-- A response. -/
  | response
deriving Repr, DecidableEq

/-- The field that carries messages of a kind. -/
def MessageKind.parameter : MessageKind → Saml.Parameter
  | request => .request
  | response => .response

/-- A captured response before decoding. -/
structure Received where
  /-- The binding it arrived on. -/
  binding : Saml.Binding
  /-- The status code of its transport. -/
  status : Nat
  /-- Its fields. -/
  fields : Fields
  /-- The test sent a relay state with its request. -/
  relayStateGiven : Bool
deriving Repr, DecidableEq

namespace Received

/-- The first value of a parameter. -/
def get? (r : Received) (p : Saml.Parameter) : Option String :=
  r.fields.get? p.name

/-- A parameter is present. -/
def has (r : Received) (p : Saml.Parameter) : Bool :=
  (r.get? p).isSome

/-- The payload field with the kind of its message. -/
def payload? (r : Received) : Option (MessageKind × String) :=
  match r.get? .response with
  | some v => some (.response, v)
  | none => (r.get? .request).map fun v => (.request, v)

end Received

end SamlConformance

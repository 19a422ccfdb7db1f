import SamlConformance.EnvironmentError
import SamlConformance.Idp.Form
import SamlConformance.Message.Received

/-!
# Responders

Providers differ in how they hand a message back to the browser. A responder
knows the habits of one kind of provider, and finds the fields in what was
captured of an exchange. The generic one expects just what the bindings say.

Fields that are missing are no error here: the violation that follows from them
is the finding the provider deserves.

## Main definitions

* `Exchange`: What was captured of a response of the provider.
* `Responder`: A way of finding the fields.
* `Responder.generic`: The responder that follows the bindings.
-/

namespace SamlConformance

/-- A captured response of the transport. -/
structure Exchange where
  /-- Its status code. -/
  status : Nat
  /-- Where it redirects to. -/
  location : Option String := none
  /-- Its body. -/
  body : Option String := none
deriving Repr, DecidableEq

/-- A way of finding the fields in an exchange. The flag says whether the test
sent a relay state. -/
abbrev Responder := Saml.Binding → Exchange → Bool → Except ProviderError Received

namespace Responder

/-- The query of an address, without the fragment. -/
def locationQuery (location : List Char) : List Char :=
  let beforeFragment := (Text.cutFirst '#' location).1
  ((Text.cutFirst '?' beforeFragment).2).getD []

/-- The fields where the binding says they are. -/
def genericFields (b : Saml.Binding) (x : Exchange) : Fields :=
  match b with
  | .redirect =>
    match x.location with
    | some l => Fields.ofQueryChars (locationQuery l.toList)
    | none => []
  | .post =>
    match x.body with
    | some page => Form.fields page
    | none => []

/-- The responder that follows the bindings. -/
def generic : Responder := fun b x given =>
  .ok ⟨b, x.status, genericFields b x, given⟩

/-- The name the generic responder is known by. -/
def genericName : String := "generic"

end Responder

end SamlConformance

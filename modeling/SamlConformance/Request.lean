/-!
# Requests

What the test asked of the provider. A response is judged by whether it answers
that request and no other.

## Main definitions

* `Request`: The facts a response is compared with.
-/

namespace SamlConformance

/-- What the test sent. -/
structure Request where
  /-- The identifier a response has to refer to. -/
  id : String
  /-- The address at which responses are taken. -/
  acsUrl : String
  /-- A relay state was sent. -/
  relayStateGiven : Bool := false
  /-- The relay state that is sent, if any is. -/
  relayState : String := "relay+State"
  /-- The entity identifier of the service provider, where audiences are checked. -/
  spEntityId : Option String := none
deriving Repr, DecidableEq

end SamlConformance

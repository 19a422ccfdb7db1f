import SamlConformance.Config.Basic
import SamlConformance.Request

/-!
# Requests by Configuration

The parts of a request that are the same for all tests come from the configuration.

## Main definitions

* `Config.request`: The request a configuration describes.
-/

namespace SamlConformance

namespace Config

/-- The request with an identifier, as the configuration describes it. -/
def request (c : Config) (id : String) : Except EnvironmentError Request :=
  match c.requiredAcsUrl with
  | .ok url => .ok { id, acsUrl := url, relayState := c.relayState, spEntityId := c.spEntityId }
  | .error e => .error e

end Config

end SamlConformance

/-!
# Errors of the Environment

Some failures say nothing about the provider under test: the toolkit is not set
up, or a captured response cannot be judged. They end the current test and are
never recorded as violations.

## Main definitions

* `EnvironmentError`: The causes.
* `EnvironmentError.isSetup`: The toolkit itself is to be set up differently.
* `ProviderError`: The causes that lie in what is known of the provider.
-/

namespace SamlConformance

/-- Why a response could not be judged at all. -/
inductive EnvironmentError where
  /-- The configuration is unusable. -/
  | config (detail : String)
  /-- The metadata of the provider are unusable. -/
  | metadata (detail : String)
  /-- The payload is in an encoding unknown here. -/
  | unsupportedEncoding (uri : String)
  /-- No responder has the configured name. -/
  | unknownResponder (name : String)
  /-- A captured exchange is unusable. -/
  | capture (detail : String)
  /-- A file cannot be read or written. -/
  | io (detail : String)
deriving Repr, DecidableEq

namespace EnvironmentError

/-- The wording of an error. -/
def message : EnvironmentError → String
  | config d => "configuration error: " ++ d
  | metadata d => "IdP metadata error: " ++ d
  | unsupportedEncoding u => "unsupported message encoding: " ++ u
  | unknownResponder n => "unknown IdP responder: " ++ n
  | capture d => "capture error: " ++ d
  | io d => "I/O error: " ++ d

/-- The error lies in the setup of the toolkit, not in what was captured. -/
def isSetup : EnvironmentError → Bool
  | unsupportedEncoding _ => false
  | capture _ => false
  | _ => true

end EnvironmentError

/-- What is wrong with the knowledge about a provider. -/
inductive ProviderError where
  /-- No responder has that name. -/
  | responderNotFound (name : String)
  /-- A captured exchange cannot be interpreted. -/
  | capture (detail : String)
  /-- The metadata are unusable. -/
  | metadata (detail : String)
deriving Repr, DecidableEq

namespace ProviderError

/-- The wording of an error. -/
def message : ProviderError → String
  | responderNotFound n => "responder not found: " ++ n
  | capture d => "unusable capture: " ++ d
  | metadata d => "invalid IdP metadata: " ++ d

/-- The error as one of the environment. -/
def toEnvironment : ProviderError → EnvironmentError
  | responderNotFound n => .unknownResponder n
  | capture d => .capture d
  | metadata d => .metadata d

end ProviderError

end SamlConformance

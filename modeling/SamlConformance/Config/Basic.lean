import SamlConformance.EnvironmentError
import SamlConformance.Text.Blank

/-!
# Configuration

What the toolkit has to be told: where its report goes, which provider is tested
and which service provider it poses as. Nearly everything has a default, so the
configuration is complete from the start and sources only change it: a file first,
variables of the environment after it, and the options of a command last.

What has no default is missing only where it is needed: the path of the metadata
and the address for responses.

## Main definitions

* `Config`: The settings.
* `Config.overridden`: The settings after the variables of the environment.
* `Config.requiredMetadataPath`, `Config.requiredAcsUrl`: What may be missing.
-/

namespace SamlConformance

/-- The settings of the toolkit. -/
structure Config where
  /-- How much is logged. -/
  logLevel : String := "info"
  /-- Responses with an error status are passed over. -/
  lenient : Bool := false
  /-- Where the report is written. -/
  reportPath : String := "report.txt"
  /-- The report lists no violations. -/
  quiet : Bool := false
  /-- Where the metadata of the provider are. -/
  metadataPath : Option String := none
  /-- The name of the responder. -/
  responder : String := "generic"
  /-- The entity identifier of the service provider. -/
  spEntityId : Option String := none
  /-- The address at which responses are taken. -/
  acsUrl : Option String := none
  /-- The relay state that is sent. -/
  relayState : String := "relay+State"
deriving Repr, DecidableEq

namespace Config

/-- The words that raise a flag, whatever their case and the blanks around them. -/
def raisesFlag (written : String) : Bool :=
  let word := String.ofList ((Text.trimmed written.toList).map Char.toLower)
  ["1", "true", "yes", "on"].contains word

/-- A setting after a variable that may be set. -/
def choice {α : Type} (set? : Option String) (read : String → α) (setting : α) : α :=
  match set? with
  | some written => read written
  | none => setting

/-- The variables of the environment that override settings. -/
def variableNames : List String :=
  ["CTK_REPORT_PATH", "CTK_QUIET", "CTK_IDP_METADATA", "CTK_IDP_RESPONDER", "CTK_SP_ENTITY_ID",
    "CTK_ACS_URL", "CTK_RELAY_STATE", "CTK_LOG", "CTK_LENIENT"]

/-- The settings after the variables of the environment, each of which overrides
one setting. -/
def overridden (c : Config) (value? : String → Option String) : Config where
  logLevel := choice (value? "CTK_LOG") id c.logLevel
  lenient := choice (value? "CTK_LENIENT") raisesFlag c.lenient
  reportPath := choice (value? "CTK_REPORT_PATH") id c.reportPath
  quiet := choice (value? "CTK_QUIET") raisesFlag c.quiet
  metadataPath := choice (value? "CTK_IDP_METADATA") some c.metadataPath
  responder := choice (value? "CTK_IDP_RESPONDER") id c.responder
  spEntityId := choice (value? "CTK_SP_ENTITY_ID") some c.spEntityId
  acsUrl := choice (value? "CTK_ACS_URL") some c.acsUrl
  relayState := choice (value? "CTK_RELAY_STATE") id c.relayState

/-- Where the metadata are, which has to be set where they are needed. -/
def requiredMetadataPath (c : Config) : Except EnvironmentError String :=
  match c.metadataPath with
  | some path => .ok path
  | none => .error (.metadata "no IdP metadata path configured")

/-- The address for responses, which has to be set where no capture names one. -/
def requiredAcsUrl (c : Config) : Except EnvironmentError String :=
  match c.acsUrl with
  | some url => .ok url
  | none => .error (.config "sp.acs_url is not set")

end Config

end SamlConformance

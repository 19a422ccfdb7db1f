import SamlConformance.Config.Basic
import SamlConformance.Json.Value
import SamlConformance.Toml.Quoted

/-!
# Writing a Configuration

The settings in the layout of a configuration file, and as a JSON value. A setting
without default is left out of the file while it is not set, and null in JSON.

## Main definitions

* `Config.toToml`: The text of a configuration file.
* `Config.toJson`: The JSON value.
-/

namespace SamlConformance

namespace Config

/-- A line that sets a name to a text. -/
def textLine (name value : String) : String :=
  name ++ " = " ++ Toml.quote value ++ "\n"

/-- A line that sets a name to a truth value. -/
def flagLine (name : String) (value : Bool) : String :=
  name ++ " = " ++ (if value then "true" else "false") ++ "\n"

/-- A line that sets a name to a text, if there is one. -/
def optionalLine (name : String) : Option String → String
  | some value => textLine name value
  | none => ""

/-- A table after an empty line. -/
def tableLines (name : String) (lines : List String) : String :=
  "\n[" ++ name ++ "]\n" ++ String.join lines

/-- The text of a configuration file. -/
def toToml (c : Config) : String :=
  textLine "log_level" c.logLevel ++ flagLine "lenient" c.lenient ++
    tableLines "report" [textLine "path" c.reportPath, flagLine "quiet" c.quiet] ++
    tableLines "idp" [optionalLine "metadata" c.metadataPath,
      textLine "responder" c.responder] ++
    tableLines "sp" [optionalLine "entity_id" c.spEntityId, optionalLine "acs_url" c.acsUrl,
      textLine "relay_state" c.relayState]

/-- The settings as a JSON value. -/
def toJson (c : Config) : Json.Value :=
  .object [
    ("log_level", .string c.logLevel),
    ("lenient", .bool c.lenient),
    ("report", .object [("path", .string c.reportPath), ("quiet", .bool c.quiet)]),
    ("idp", .object [("metadata", .optional c.metadataPath), ("responder", .string c.responder)]),
    ("sp", .object [("entity_id", .optional c.spEntityId), ("acs_url", .optional c.acsUrl),
      ("relay_state", .string c.relayState)])]

end Config

end SamlConformance

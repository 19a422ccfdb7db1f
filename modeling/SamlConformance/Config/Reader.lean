import SamlConformance.Config.Basic
import SamlConformance.Toml.Reader

/-!
# Reading a Configuration

A configuration file names settings in four tables. What it does not name keeps
its default, and names that are not known are ignored. A known name with a value
of the wrong kind makes the whole file unusable.

The settings of an inner table can also be given as a list in the order of their
names.

## Main definitions

* `Config.ofEntries?`: The settings that values by name describe.
* `Config.parse`: The settings that a text describes.
-/

namespace SamlConformance

namespace Toml.Value

/-- The text a value is. -/
def text? : Toml.Value → Option String
  | string s => some s
  | _ => none

/-- The truth value a value is. -/
def flag? : Toml.Value → Option Bool
  | boolean b => some b
  | _ => none

/-- The values by name that a value holds, the names for those of a list being
given. A time is a value that holds none. -/
def entries? (names : List String) : Toml.Value → Option Toml.Entries
  | table _ es => some es
  | array items => some (names.zip items)
  | tables items => some (names.zip (items.map (table .opened)))
  | scalar .time => some []
  | _ => none

end Toml.Value

namespace Config

/-- A setting by its name, or its default. -/
def setting? {α : Type} (es : Toml.Entries) (name : String) (read? : Toml.Value → Option α)
    (default : α) : Option α :=
  match es.lookup name with
  | some v => read? v
  | none => some default

/-- An inner table by its name, or an empty one. -/
def inner? (es : Toml.Entries) (name : String) (names : List String) : Option Toml.Entries :=
  setting? es name (Toml.Value.entries? names) []

/-- The settings that values by name describe. -/
def ofEntries? (es : Toml.Entries) : Option Config := do
  let base : Config := {}
  let report ← inner? es "report" ["path", "quiet"]
  let idp ← inner? es "idp" ["metadata", "responder"]
  let sp ← inner? es "sp" ["entity_id", "acs_url", "relay_state"]
  return {
    logLevel := ← setting? es "log_level" Toml.Value.text? base.logLevel
    lenient := ← setting? es "lenient" Toml.Value.flag? base.lenient
    reportPath := ← setting? report "path" Toml.Value.text? base.reportPath
    quiet := ← setting? report "quiet" Toml.Value.flag? base.quiet
    metadataPath := ← setting? idp "metadata" (fun v => v.text?.map some) base.metadataPath
    responder := ← setting? idp "responder" Toml.Value.text? base.responder
    spEntityId := ← setting? sp "entity_id" (fun v => v.text?.map some) base.spEntityId
    acsUrl := ← setting? sp "acs_url" (fun v => v.text?.map some) base.acsUrl
    relayState := ← setting? sp "relay_state" Toml.Value.text? base.relayState }

/-- The settings that a text describes. -/
def parse (text : String) : Except EnvironmentError Config :=
  match (Toml.parse? text).bind ofEntries? with
  | some c => .ok c
  | none => .error (.config "failed to parse config")

end Config

end SamlConformance

import SamlConformance.Idp.Responder
import SamlConformance.Text.Blank

/-!
# Registries

Responders are chosen by the name in the configuration. A registry knows what is
registered under a name, and which name stands for a blank one.

## Main definitions

* `Registry`: Values by name, with a name for the default.
* `Registry.register`, `Registry.resolve`: Adding and choosing.
* `Registry.builtin`: The responders of this toolkit.
-/

namespace SamlConformance

/-- Values by name. -/
structure Registry (α : Type) where
  /-- The entries, no name twice. -/
  entries : List (String × α)
  /-- The name that stands for a blank one. -/
  standard : String

namespace Registry

variable {α : Type}

/-- No entries. -/
def empty : Registry α := ⟨[], Responder.genericName⟩

/-- Adds an entry, in place of any other of that name. -/
def register (r : Registry α) (name : String) (value : α) : Registry α :=
  { r with entries := (r.entries.filter fun e => e.1 != name) ++ [(name, value)] }

/-- Makes a name the one that stands for a blank one. -/
def setStandard (r : Registry α) (name : String) : Registry α :=
  { r with standard := name }

/-- The value of a name. -/
def get (r : Registry α) (name : String) : Except ProviderError α :=
  match r.entries.lookup name with
  | some v => .ok v
  | none => .error (.responderNotFound name)

/-- The name that is meant by a configured one, which may be missing. -/
def meant (r : Registry α) (name : Option String) : String :=
  let n := Text.trim (name.getD "")
  if n.isEmpty then r.standard else n

/-- The value of a configured name. -/
def resolve (r : Registry α) (name : Option String) : Except ProviderError α :=
  r.get (r.meant name)

/-- A name is registered. -/
def contains (r : Registry α) (name : String) : Bool :=
  (r.entries.lookup name).isSome

/-- The registered names in order. -/
def names (r : Registry α) : List String :=
  (r.entries.map Prod.fst).mergeSort fun a b => !(b < a)

/-- The responders of this toolkit. -/
def builtin : Registry Responder :=
  empty.register Responder.genericName Responder.generic

end Registry

end SamlConformance

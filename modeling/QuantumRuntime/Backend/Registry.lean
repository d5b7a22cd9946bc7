import QuantumRuntime.Backend.Settings
import QuantumRuntime.Failure.Backend

/-
  This file defines registries, which make backends by name.

  Key definitions include:
    * `Registry`
    * `Registry.add`
    * `Registry.addFailing`
    * `Registry.names`
    * `Registry.create`
-/

namespace QuantumRuntime

/- How a backend is made from its settings. -/
abbrev Maker (β : Type) :=
  BackendSettings → Except BackendError β

/- The makers of backends, each under a name. -/
structure Registry (β : Type) where
  makers : Std.ExtTreeMap String (Maker β) compare

namespace Registry

variable {β : Type}

/- The registry that can make nothing. -/
def empty : Registry β :=
  { makers := ∅ }

/- Register a maker under a name, in place of any before it. -/
def add
    (name : String)
    (maker : Maker β)
    (registry : Registry β) : Registry β :=
  { makers := registry.makers.insert name maker }

/- Register a backend that is never available, for a reason. -/
def addFailing
    (name : String)
    (reason : String)
    (registry : Registry β) : Registry β :=
  registry.add name fun _ => .error (.unavailable reason)

/- The registered names in ascending order. -/
def names
    (registry : Registry β) : List String :=
  registry.makers.keys

/- Whether something is registered under a name. -/
def has
    (registry : Registry β)
    (name : String) : Bool :=
  registry.makers.contains name

/- Make the backend that the settings name. -/
def create
    (registry : Registry β)
    (settings : BackendSettings) : Except BackendError β :=
  match registry.makers[settings.name]? with
  | some maker => maker settings
  | none =>
      .error (.unavailable
        s!"No backend registered with name '{settings.name}'")

end Registry

end QuantumRuntime

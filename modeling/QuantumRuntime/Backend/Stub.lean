import QuantumRuntime.Backend.Interface
import QuantumRuntime.Backend.Settings

/-
  This file defines the backend that offers nothing but the
  constant results.

  Key definitions include:
    * `Stub`
    * `Stub.ofSettings`
-/

namespace QuantumRuntime

/- A backend that has only a name. -/
structure Stub (R : Type) where
  name : String
deriving DecidableEq, Repr

namespace Stub

variable {R : Type}

/- The stub with the name in the settings. -/
def ofSettings
    (settings : BackendSettings) : Stub R :=
  { name := settings.name }

instance [Scalar R] : Backend R (Stub R) where
  name := Stub.name

end Stub

end QuantumRuntime

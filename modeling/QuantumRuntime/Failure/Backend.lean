import QuantumRuntime.Failure.Decoding
import QuantumRuntime.Handle

/-
  This file defines why a backend, or the selection of one,
  refuses a request.

  Key definitions include:
    * `Violation`
    * `BackendError`
    * `BackendError.message`
    * `BackendError.IsContractViolation`
    * `BackendError.IsUnsupported`
-/

namespace QuantumRuntime

------------------------------------------------------------
-- Violations
------------------------------------------------------------

/- Why a handle is not live. -/
inductive Violation where
  | released
  | unknown
deriving DecidableEq, Repr

namespace Violation

/- The wording of a violation. -/
def text : Violation → String
  | released => "was already released"
  | unknown => "was never allocated"

end Violation

------------------------------------------------------------
-- Backend errors
------------------------------------------------------------

/-
  Why a backend refused a request. `contractViolation` and
  `invalidArgument` are faults of the caller, `unsupported` a
  limit of the backend, and the others concern set-up and jobs.
-/
inductive BackendError where
  | contractViolation (operation : String) (handle : Handle) (why : Violation)
  | invalidArgument (operation : String) (reason : String)
  | unsupported (backend : String) (operation : String)
  | unavailable (reason : String)
  | configuration (reason : String)
  | serialization
  | decoding (cause : DecodingError)
  | submissionFailed (reason : String)
  | jobNotFound (id : String)
deriving DecidableEq, Repr

namespace BackendError

/-
  The wording of a backend error. A value that cannot be read
  has no wording of its own.
-/
def message : BackendError → Option String
  | contractViolation operation handle why =>
      some s!"contract violation in {operation}: {handle.text} {why.text}"
  | invalidArgument operation reason =>
      some s!"contract violation in {operation}: {reason}"
  | unsupported backend operation =>
      some s!"Unsupported operation on backend '{backend}': {operation}"
  | unavailable reason => some s!"Backend not available: {reason}"
  | configuration reason => some s!"Configuration error: {reason}"
  | serialization => none
  | decoding cause => some s!"IR error: {cause.message}"
  | submissionFailed reason => some s!"Job submission failed: {reason}"
  | jobNotFound id => some s!"Job not found: {id}"

/- The wording of an error where one is needed. -/
def text
    (e : BackendError) : String :=
  e.message.getD ""

/- The caller misused a handle or an argument. -/
def IsContractViolation : BackendError → Prop
  | contractViolation _ _ _ => True
  | invalidArgument _ _ => True
  | _ => False

instance
    (e : BackendError) :
    Decidable e.IsContractViolation := by
  cases e <;> unfold IsContractViolation <;> infer_instance

/- The backend lacks the capability. -/
def IsUnsupported : BackendError → Prop
  | unsupported _ _ => True
  | _ => False

instance
    (e : BackendError) :
    Decidable e.IsUnsupported := by
  cases e <;> unfold IsUnsupported <;> infer_instance

/- The handle that a contract violation is about. -/
def handle? : BackendError → Option Handle
  | contractViolation _ handle _ => some handle
  | _ => none

end BackendError

end QuantumRuntime

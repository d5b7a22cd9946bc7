import QuantumRuntime.Failure.Backend
import QuantumRuntime.Pauli

/-
  This file defines the checks on the shape of arguments that
  every simulator shares.

  Key definitions include:
    * `singleMeasurement`
    * `checkDistinct`
-/

namespace QuantumRuntime

/-
  The basis and the target of a measurement of one qubit. The
  lists must have the same length before anything else is said
  about them.
-/
def singleMeasurement
    (backend : String)
    (bases : List Pauli)
    (targets : List QubitId) : Except BackendError (Pauli × QubitId) :=
  if bases.length ≠ targets.length then
    .error (.invalidArgument "measure"
      s!"{bases.length} bases given for {targets.length} targets")
  else
    match bases, targets with
    | [basis], [target] => .ok (basis, target)
    | [], [] => .error (.invalidArgument "measure" "no targets given")
    | _, _ =>
        .error (.unsupported backend
          s!"joint measurement over {targets.length} qubits")

/-
  The controls that come after some others differ from the
  target, from those others and from each other. The first
  control that does not is reported.
-/
def checkDistinctFrom
    (earlier : List QubitId)
    (target : QubitId) : List QubitId → Except BackendError Unit
  | [] => .ok ()
  | c :: rest =>
      if c = target then
        .error (.invalidArgument "apply_controlled"
          s!"target {target.text} is also a control")
      else if c ∈ earlier then
        .error (.invalidArgument "apply_controlled"
          s!"control {c.text} is repeated")
      else
        checkDistinctFrom (c :: earlier) target rest

/- No control is the target and none is repeated. -/
def checkDistinct
    (controls : List QubitId)
    (target : QubitId) : Except BackendError Unit :=
  checkDistinctFrom [] target controls

end QuantumRuntime

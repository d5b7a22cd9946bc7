import QuantumRuntime.Backend.Interface

/-
  This file defines a backend that refuses to release some
  qubits and passes everything else on to another backend.

  Key definitions include:
    * `Pinned`
-/

namespace QuantumRuntime

/- A backend together with the qubits it will not release. -/
structure Pinned (β : Type) where
  base : β
  qubits : List QubitId

namespace Pinned

variable {R β : Type}

/- Pass an action on to the backend behind the pins. -/
def forward
    {ε α : Type}
    (action : Action β ε α) : Action (Pinned β) ε α :=
  action.onPart Pinned.base fun base b => { b with base := base }

instance [Scalar R] [Backend R β] : Backend R (Pinned β) where
  name b := Backend.name b.base
  allocateQubit := forward Backend.allocateQubit
  releaseQubit q := do
    let b ← get
    if q ∈ b.qubits then
      throw (.unsupported (Backend.name b.base) "release_qubit")
    else
      forward (Backend.releaseQubit q)
  apply g target := forward (Backend.apply g target)
  applyControlled g controls target :=
    forward (Backend.applyControlled g controls target)
  measure bases targets := forward (Backend.measure bases targets)
  areEqualResults b := Backend.areEqualResults b.base
  releaseResult r := forward (Backend.releaseResult r)
  zeroResult b := Backend.zeroResult b.base
  oneResult b := Backend.oneResult b.base
  resultValue b := Backend.resultValue b.base

end Pinned

end QuantumRuntime

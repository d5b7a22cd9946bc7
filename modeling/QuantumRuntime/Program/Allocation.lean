import QuantumRuntime.Scope.Context

/-
  This file defines the allocation and the release of several
  qubits at once.

  Key definitions include:
    * `Allocation.allocateArray`
    * `Allocation.releaseArray`
-/

namespace QuantumRuntime

namespace Allocation

variable {n : Nat} {β R : Type} [Scalar R] [Backend R β]

/- Release qubits after a failure. A refusal is noted. -/
def rollBack : List QubitId → Program n β Unit
  | [] => pure ()
  | q :: rest => do
      match ← (Context.releaseQubit (n := n) (β := β) q).attempt with
      | .ok () => pure ()
      | .error cause => Context.note (.rollbackFailed q cause)
      rollBack rest

/-
  Allocate a number of further qubits. If an allocation fails,
  all qubits allocated so far are released in the order in
  which they were allocated, and the failure is passed on.
-/
def allocateMore
    (allocated : List QubitId) : Nat → Program n β (List QubitId)
  | 0 => pure allocated
  | remaining + 1 => do
      match ← (Context.allocateQubit (n := n) (β := β)).attempt with
      | .ok q => allocateMore (allocated ++ [q]) remaining
      | .error cause =>
          rollBack allocated
          throw cause

/- Allocate a number of qubits, or none if that fails. -/
def allocateArray
    (count : Nat) : Program n β (List QubitId) :=
  allocateMore [] count

/- Release qubits in their order, up to the first refusal. -/
def releaseArray : List QubitId → Program n β Unit
  | [] => pure ()
  | q :: rest => do
      Context.releaseQubit q
      releaseArray rest

end Allocation

end QuantumRuntime

import QuantumRuntime.Scope.Context

/-
  This file defines the intrinsic operations of programs: the
  gates by name, and the operations that are made of gates and
  measurements.

  Key definitions include:
    * `Intrinsic.plainGate?`
    * `Intrinsic.controlledGate?`
    * `Intrinsic.cnot`
    * `Intrinsic.swap`
    * `Intrinsic.reset`
    * `Intrinsic.measureBit`
-/

namespace QuantumRuntime

namespace Intrinsic

variable {n : Nat} {β R : Type} [Scalar R] [Backend R β]

------------------------------------------------------------
-- Gates by name
------------------------------------------------------------

/-
  The gate that an intrinsic without controls applies. The
  angle is used by rotations only.
-/
def plainGate?
    (name : String)
    (angle : R) : Option (Gate R) :=
  match name with
  | "x_body" => some .x
  | "y_body" => some .y
  | "z_body" => some .z
  | "h_body" => some .h
  | "s_body" => some .s
  | "s_adj" => some .sdg
  | "t_body" => some .t
  | "t_adj" => some .tdg
  | "rx_body" => some (.rx angle)
  | "ry_body" => some (.ry angle)
  | "rz_body" => some (.rz angle)
  | "r1_body" => some (.r1 angle)
  | _ => none

/- The gate that an intrinsic with controls applies. -/
def controlledGate?
    (name : String)
    (angle : R) : Option (Gate R) :=
  match name with
  | "x_ctl" => some .x
  | "y_ctl" => some .y
  | "z_ctl" => some .z
  | "h_ctl" => some .h
  | "s_ctl" => some .s
  | "s_ctladj" => some .sdg
  | "t_ctl" => some .t
  | "t_ctladj" => some .tdg
  | "rx_ctl" => some (.rx angle)
  | "ry_ctl" => some (.ry angle)
  | "rz_ctl" => some (.rz angle)
  | "r1_ctl" => some (.r1 angle)
  | _ => none

------------------------------------------------------------
-- Gates on two qubits
------------------------------------------------------------

/- Flip the target where the control is one. -/
def cnot
    (control target : QubitId) : Program n β Unit :=
  Context.applyControlled .x [control] target

/- Change the sign where both qubits are one. -/
def cz
    (control target : QubitId) : Program n β Unit :=
  Context.applyControlled .z [control] target

/- Exchange two qubits by three controlled flips. -/
def swap
    (a b : QubitId) : Program n β Unit := do
  cnot a b
  cnot b a
  cnot a b

------------------------------------------------------------
-- Measurement
------------------------------------------------------------

/- Measure a qubit in the computational basis. -/
def measureZ
    (q : QubitId) : Program n β ResultId :=
  Context.measure [.z] [q]

/-
  Bring a qubit to zero: measure it, release the result, and
  flip the qubit if the outcome was one.
-/
def reset
    (q : QubitId) : Program n β Unit := do
  let r ← Context.measure [.z] [q]
  let isOne ← Context.resultValue r
  Context.releaseResult r
  if isOne then
    Context.apply .x q

/- Measure a qubit, release the result and answer with the bit. -/
def measureBit
    (q : QubitId) : Program n β Bool := do
  let r ← measureZ q
  let one ← Context.oneResult
  let bit ← Context.areEqualResults r one
  Context.releaseResult r
  pure bit

end Intrinsic

end QuantumRuntime

import QuantumRuntime.Program.Allocation
import QuantumRuntime.Program.Intrinsics

/-
  This file defines three well-known protocols as programs. Each
  allocates what it needs, brings its qubits back to zero and
  releases every handle before it answers.

  Key definitions include:
    * `Protocol.bellPair`
    * `Protocol.ghz`
    * `Protocol.teleport`
-/

namespace QuantumRuntime

namespace Protocol

variable {n : Nat} {β R : Type} [Scalar R] [Backend R β]

open Intrinsic Allocation

/- The qubit at a place of an array. -/
def qubitAt
    (qs : List QubitId)
    (index : Nat) : Program n β QubitId :=
  match qs[index]? with
  | some q => pure q
  | none => throw (.indexOutOfRange (Int64.ofNat index) qs.length)

/- Reset qubits in their order. -/
def resetAll : List QubitId → Program n β Unit
  | [] => pure ()
  | q :: rest => do
      reset q
      resetAll rest

/- Entangle two qubits evenly and measure both. -/
def bellPair : Program n β (Bool × Bool) := do
  let qs ← allocateArray 2
  let a ← qubitAt qs 0
  let b ← qubitAt qs 1
  Context.apply .h a
  cnot a b
  let bitA ← measureBit a
  let bitB ← measureBit b
  reset a
  reset b
  releaseArray qs
  pure (bitA, bitB)

/- Flip each qubit where the one before it is one. -/
def chain : List QubitId → Program n β Unit
  | a :: b :: rest => do
      cnot a b
      chain (b :: rest)
  | _ => pure ()

/- Measure and reset qubits in their order. -/
def measureAndReset : List QubitId → Program n β (List Bool)
  | [] => pure []
  | q :: rest => do
      let bit ← measureBit q
      reset q
      let bits ← measureAndReset rest
      pure (bit :: bits)

/- Entangle some qubits so that all agree, and measure them. -/
def ghz
    (count : Nat) : Program n β (List Bool) := do
  if count = 0 then
    throw (.failed "GHZ state needs at least one qubit")
  else
    let qs ← allocateArray count
    let first ← qubitAt qs 0
    Context.apply .h first
    chain qs
    let bits ← measureAndReset qs
    releaseArray qs
    pure bits

/-
  Turn a qubit by an angle, send its state to another qubit by
  way of an entangled pair and two bits, and measure the
  receiving qubit.
-/
def teleport
    (angle : R) : Program n β Bool := do
  let qs ← allocateArray 3
  let message ← qubitAt qs 0
  let alice ← qubitAt qs 1
  let bob ← qubitAt qs 2
  Context.apply (.rx angle) message
  Context.apply .h alice
  cnot alice bob
  cnot message alice
  Context.apply .h message
  if ← measureBit alice then
    Context.apply .x bob
  if ← measureBit message then
    Context.apply .z bob
  let received ← measureBit bob
  resetAll qs
  releaseArray qs
  pure received

end Protocol

end QuantumRuntime

import QuantumRuntime.Backend.Arguments
import QuantumRuntime.Backend.Interface
import QuantumRuntime.Backend.Settings
import QuantumRuntime.HandleTable

/-
  This file defines the backend that executes nothing and
  counts what a program needs: gates, measurements, the number
  of qubits live at once, and the depth of the program when
  every operation is scheduled as early as its qubits allow.

  Key definitions include:
    * `Counts`
    * `Metrics`
    * `Tracer`
    * `Tracer.ofSettings`
    * `Tracer.takeMetrics`
    * `Tracer.applyControlled`
-/

namespace QuantumRuntime

------------------------------------------------------------
-- Metrics
------------------------------------------------------------

/- A positive count for each name that was counted. -/
abbrev Counts :=
  Std.ExtTreeMap String Nat compare

namespace Counts

/- Count a name once more. -/
def increment
    (name : String)
    (counts : Counts) : Counts :=
  counts.alter name fun count => some (count.getD 0 + 1)

/- The sum of all counts. -/
def total
    (counts : Counts) : Nat :=
  (counts.toList.map Prod.snd).foldl (· + ·) 0

end Counts

/- What a program has needed so far. -/
structure Metrics where
  gateCounts : Counts
  controlledCounts : Counts
  measurements : Nat
  qubitsAllocated : Nat
  peakWidth : Nat
  depth : Nat

namespace Metrics

/- The metrics of a program that has done nothing. -/
def zero : Metrics :=
  { gateCounts := ∅
    controlledCounts := ∅
    measurements := 0
    qubitsAllocated := 0
    peakWidth := 0
    depth := 0 }

/- The number of gates applied, controlled or not. -/
def totalGates
    (m : Metrics) : Nat :=
  m.gateCounts.total + m.controlledCounts.total

end Metrics

------------------------------------------------------------
-- Tracers
------------------------------------------------------------

/-
  The counting backend. `qubits` holds for each live qubit the
  layer of the last operation that touched it.
-/
structure Tracer (R : Type) where
  name : String
  qubits : HandleTable QubitId Nat
  metrics : Metrics

namespace Tracer

variable {R : Type}

/- The tracer that has counted nothing. -/
def start : Tracer R :=
  { name := "tracer"
    qubits := HandleTable.empty
    metrics := Metrics.zero }

/- The tracer with the name in the settings. -/
def ofSettings
    (settings : BackendSettings) : Tracer R :=
  { (start : Tracer R) with name := settings.name }

/- Take the metrics and start counting again. -/
def takeMetrics : Action (Tracer R) BackendError Metrics := do
  let tracer ← get
  modify ({ · with metrics := Metrics.zero })
  pure tracer.metrics

------------------------------------------------------------
-- Layers
------------------------------------------------------------

/- The depth is at least any layer that was used. -/
def schedule
    (layer : Nat) : Action (Tracer R) BackendError Unit :=
  modify fun tracer =>
    { tracer with
      metrics :=
        { tracer.metrics with depth := max tracer.metrics.depth layer } }

/- Move a live qubit to a layer. -/
def placeAt
    (operation : String)
    (layer : Nat)
    (q : QubitId) : Action (Tracer R) BackendError Unit := do
  let tracer ← get
  let qubits ← Action.ofExcept (tracer.qubits.replace q operation layer)
  modify ({ · with qubits := qubits })

/- Move a live qubit to its next layer. -/
def advance
    (operation : String)
    (q : QubitId) : Action (Tracer R) BackendError Unit := do
  let tracer ← get
  let layer ← Action.ofExcept (tracer.qubits.get q operation)
  placeAt operation (layer + 1) q
  schedule (layer + 1)

/- The last layer among live qubits, and at least the given one. -/
def lastLayer
    (qubits : HandleTable QubitId Nat)
    (layer : Nat)
    (controls : List QubitId) : Except BackendError Nat :=
  controls.foldlM
    (fun last c => do
      let layer ← qubits.get c "apply_controlled"
      .ok (max last layer))
    layer

------------------------------------------------------------
-- Operations
------------------------------------------------------------

/- Issue a qubit that no operation has touched. -/
def allocateQubit : Action (Tracer R) BackendError QubitId := do
  let tracer ← get
  let (q, qubits) := tracer.qubits.insert 0
  modify fun tracer =>
    { tracer with
      qubits := qubits
      metrics :=
        { tracer.metrics with
          qubitsAllocated := tracer.metrics.qubitsAllocated + 1
          peakWidth := max tracer.metrics.peakWidth qubits.liveCount } }
  pure q

/- Release a qubit. -/
def releaseQubit
    (q : QubitId) : Action (Tracer R) BackendError Unit := do
  let tracer ← get
  let (_, qubits) ← Action.ofExcept (tracer.qubits.release q "release_qubit")
  modify ({ · with qubits := qubits })

/- Count a gate on a live qubit. -/
def apply
    (g : Gate R)
    (target : QubitId) : Action (Tracer R) BackendError Unit := do
  advance "apply" target
  modify fun tracer =>
    { tracer with
      metrics :=
        { tracer.metrics with
          gateCounts := tracer.metrics.gateCounts.increment g.name } }

/-
  Count a controlled gate. It comes in the layer after the last
  one that any of its qubits is in.
-/
def applyControlled
    (g : Gate R)
    (controls : List QubitId)
    (target : QubitId) : Action (Tracer R) BackendError Unit := do
  let tracer ← get
  let own ← Action.ofExcept (tracer.qubits.get target "apply_controlled")
  let last ← Action.ofExcept (lastLayer tracer.qubits own controls)
  Action.ofExcept (checkDistinct controls target)
  (controls ++ [target]).forM (placeAt "apply_controlled" (last + 1))
  schedule (last + 1)
  modify fun tracer =>
    { tracer with
      metrics :=
        { tracer.metrics with
          controlledCounts :=
            tracer.metrics.controlledCounts.increment g.name } }

/-
  Count a measurement of one live qubit. The outcome cannot be
  known, so every measurement reports zero.
-/
def measure
    (bases : List Pauli)
    (targets : List QubitId) : Action (Tracer R) BackendError ResultId := do
  let tracer ← get
  let (_, target) ←
    Action.ofExcept (singleMeasurement tracer.name bases targets)
  advance "measure" target
  modify fun tracer =>
    { tracer with
      metrics :=
        { tracer.metrics with
          measurements := tracer.metrics.measurements + 1 } }
  pure ResultId.zero

instance [Scalar R] : Backend R (Tracer R) where
  name := Tracer.name
  allocateQubit := allocateQubit
  releaseQubit := releaseQubit
  apply := apply
  applyControlled := applyControlled
  measure := measure
  areEqualResults _ r₁ r₂ := .ok (r₁ = r₂)
  releaseResult _ := pure ()

end Tracer

end QuantumRuntime

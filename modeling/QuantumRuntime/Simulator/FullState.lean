import QuantumRuntime.Backend.Arguments
import QuantumRuntime.Backend.Interface
import QuantumRuntime.Backend.Settings
import QuantumRuntime.HandleTable
import QuantumRuntime.Simulator.Draws
import QuantumRuntime.Simulator.StateVector

/-
  This file defines the simulator that keeps the full state of
  its live qubits. Each live qubit has a bit position in the
  state vector. Releasing a qubit measures it, brings it to
  zero and removes it, so that the state is as large as the
  live qubits need.

  Key definitions include:
    * `FullState`
    * `FullState.start`
    * `FullState.ofSettings`
    * `FullState.releaseQubit`
    * `FullState.applyControlled`
    * `FullState.measure`
-/

namespace QuantumRuntime

------------------------------------------------------------
-- Simulators
------------------------------------------------------------

/-
  The state of the simulator. `qubits` holds the position of
  each live qubit and `results` each recorded outcome; `drawn`
  counts the draws taken from the stream so far.
-/
structure FullState (R : Type) where
  name : String
  state : StateVector R
  qubits : HandleTable QubitId Nat
  results : HandleTable ResultId Bool
  draws : Draws R
  drawn : Nat
  maxQubits : Nat

namespace FullState

variable {R : Type} [Scalar R]

/- The number of qubits that may be live if nothing else is said. -/
def defaultMaxQubits : Nat :=
  24

/- The largest number of qubits whose indices fit in 64 bits. -/
def maxAddressableQubits : Nat :=
  63

/- The simulator without qubits. -/
def start
    (draws : Draws R) : FullState R :=
  { name := "fullstate"
    state := StateVector.ground 0
    qubits := HandleTable.empty
    results := HandleTable.empty.withBase ResultId.firstDynamic
    draws := draws
    drawn := 0
    maxQubits := defaultMaxQubits }

/- Recycle the handles of released qubits. -/
def withQubitReuse
    (sim : FullState R) : FullState R :=
  { sim with qubits := HandleTable.recycling }

/- Limit the number of live qubits, within what can be addressed. -/
def withMaxQubits
    (count : Nat)
    (sim : FullState R) : FullState R :=
  { sim with maxQubits := min count maxAddressableQubits }

/- The simulator with the options in the settings. -/
def ofSettings
    (source : DrawSource R)
    (settings : BackendSettings) : Except BackendError (FullState R) := do
  let sim :=
    match settings.natural? "seed" with
    | some seed => start (source.seeded seed)
    | none => start source.unseeded
  let sim :=
    if settings.flag? "reuse_qubits" = some true then
      sim.withQubitReuse
    else
      sim
  let sim ←
    match settings.natural? "max_qubits" with
    | none => .ok sim
    | some count =>
        if count ≤ maxAddressableQubits then
          .ok (sim.withMaxQubits count)
        else
          .error (.configuration
            s!"max_qubits {count} exceeds the addressable limit of {maxAddressableQubits}")
  .ok { sim with name := settings.name }

------------------------------------------------------------
-- Views
------------------------------------------------------------

/- The number of live qubits. -/
def qubitCount
    (sim : FullState R) : Nat :=
  sim.qubits.liveCount

/- The number of live results. -/
def resultCount
    (sim : FullState R) : Nat :=
  sim.results.liveCount

/- The probability that a live qubit is one. -/
def probabilityOne
    (sim : FullState R)
    (q : QubitId) : Except BackendError R := do
  let position ← sim.qubits.get q "probability_one"
  .ok (sim.state.probabilityOne position)

/- The outcome that a result stands for. -/
def value
    (sim : FullState R)
    (operation : String)
    (r : ResultId) : Except BackendError Bool :=
  match r.constantValue with
  | some bit => .ok bit
  | none => sim.results.get r operation

------------------------------------------------------------
-- State changes
------------------------------------------------------------

/- Apply a gate to the qubit at a position. -/
def applyAt
    (g : Gate R)
    (mask position : Nat) : Action (FullState R) BackendError Unit :=
  modify fun sim => { sim with state := sim.state.applyGate g mask position }

/- Measure the qubit at a position with the next draw. -/
def measureBit
    (position : Nat) : Action (FullState R) BackendError Bool := do
  let sim ← get
  let (bit, state) := sim.state.measure position (sim.draws sim.drawn)
  modify ({ · with state := state, drawn := sim.drawn + 1 })
  pure bit

/-
  Measure the qubit at a position in a basis and leave it in
  the state that belongs to the outcome. The basis is turned
  to the computational one and back.
-/
def measureAt
    (position : Nat) : Pauli → Action (FullState R) BackendError Bool
  | .i => pure false
  | .z => measureBit position
  | .x => do
      applyAt .h 0 position
      let bit ← measureBit position
      applyAt .h 0 position
      pure bit
  | .y => do
      applyAt .sdg 0 position
      applyAt .h 0 position
      let bit ← measureBit position
      applyAt .h 0 position
      applyAt .s 0 position
      pure bit

------------------------------------------------------------
-- Operations
------------------------------------------------------------

/- Issue a qubit that is zero, at the next position. -/
def allocateQubit : Action (FullState R) BackendError QubitId := do
  let sim ← get
  if sim.maxQubits ≤ sim.qubits.liveCount then
    throw (.unsupported sim.name
      s!"allocate_qubit beyond {sim.maxQubits} live qubits")
  else
    let (q, qubits) := sim.qubits.insert sim.state.qubitCount
    modify ({ · with state := sim.state.addQubit, qubits := qubits })
    pure q

/- Lower a position that lies above a removed one. -/
def lowerAbove
    (removed : Nat)
    (position : Nat) : Nat :=
  if removed < position then position - 1 else position

/-
  Release a qubit: measure it, bring it to zero, remove it from
  the state and lower the positions above it.
-/
def releaseQubit
    (q : QubitId) : Action (FullState R) BackendError Unit := do
  let sim ← get
  let (position, qubits) ←
    Action.ofExcept (sim.qubits.release q "release_qubit")
  modify ({ · with qubits := qubits })
  let bit ← measureBit position
  if bit then
    applyAt .x 0 position
  modify fun sim =>
    { sim with
      state := sim.state.removeQubit position
      qubits := sim.qubits.mapLive (lowerAbove position) }

/- Apply a gate to a live qubit. -/
def apply
    (g : Gate R)
    (target : QubitId) : Action (FullState R) BackendError Unit := do
  let sim ← get
  let position ← Action.ofExcept (sim.qubits.get target "apply")
  applyAt g 0 position

/- The mask of the positions of live controls. -/
def controlMask
    (qubits : HandleTable QubitId Nat)
    (controls : List QubitId) : Except BackendError Nat :=
  controls.foldlM
    (fun mask c => do
      let position ← qubits.get c "apply_controlled"
      .ok (mask ||| 1 <<< position))
    0

/- Apply a gate to a live qubit where all controls are one. -/
def applyControlled
    (g : Gate R)
    (controls : List QubitId)
    (target : QubitId) : Action (FullState R) BackendError Unit := do
  let sim ← get
  let position ← Action.ofExcept (sim.qubits.get target "apply_controlled")
  let mask ← Action.ofExcept (controlMask sim.qubits controls)
  Action.ofExcept (checkDistinct controls target)
  applyAt g mask position

/- Measure one live qubit and record the outcome. -/
def measure
    (bases : List Pauli)
    (targets : List QubitId) : Action (FullState R) BackendError ResultId := do
  let sim ← get
  let (basis, target) ←
    Action.ofExcept (singleMeasurement sim.name bases targets)
  let position ← Action.ofExcept (sim.qubits.get target "measure")
  let bit ← measureAt position basis
  let sim ← get
  let (r, results) := sim.results.insert bit
  modify ({ · with results := results })
  pure r

/- Whether two results stand for the same outcome. -/
def areEqualResults
    (sim : FullState R)
    (r₁ r₂ : ResultId) : Except BackendError Bool := do
  let bit₁ ← sim.value "result_equal" r₁
  let bit₂ ← sim.value "result_equal" r₂
  .ok (bit₁ = bit₂)

/- Release a result. Constants stay. -/
def releaseResult
    (r : ResultId) : Action (FullState R) BackendError Unit := do
  if r.IsConstant then
    pure ()
  else
    let sim ← get
    let (_, results) ←
      Action.ofExcept (sim.results.release r "release_result")
    modify ({ · with results := results })

instance : Backend R (FullState R) where
  name := FullState.name
  allocateQubit := allocateQubit
  releaseQubit := releaseQubit
  apply := apply
  applyControlled := applyControlled
  measure := measure
  areEqualResults := areEqualResults
  releaseResult := releaseResult
  resultValue sim r := sim.value "result_value" r

end FullState

end QuantumRuntime

import QuantumRuntime.Backend.Arguments
import QuantumRuntime.Backend.Interface
import QuantumRuntime.Backend.Settings
import QuantumRuntime.HandleTable
import QuantumRuntime.Text.AsciiCase

/-
  This file defines the simulator that keeps one classical bit
  for each live qubit. It accepts the gates that take basis
  states to basis states and refuses those that create
  superposition.

  Key definitions include:
    * `ResultMode`
    * `Toffoli`
    * `Toffoli.start`
    * `Toffoli.ofSettings`
    * `Toffoli.checkGate`
    * `Toffoli.applyControlled`
    * `Toffoli.measure`
-/

namespace QuantumRuntime

------------------------------------------------------------
-- Result modes
------------------------------------------------------------

/-
  How outcomes are handed out: as a fresh result for each
  measurement, or as one of the two constants.
-/
inductive ResultMode where
  | tracked
  | canonical
deriving DecidableEq, Repr

namespace ResultMode

/- The text of a result mode. -/
def text : ResultMode → String
  | tracked => "tracked"
  | canonical => "canonical"

/- The result mode with a text, in letters of either case. -/
def ofText
    (s : String) : Except BackendError ResultMode :=
  let word := asciiLower s
  if word = "tracked" then
    .ok tracked
  else if word = "canonical" then
    .ok canonical
  else
    .error (.configuration
      s!"unknown result_mode '{word}' (expected 'tracked' or 'canonical')")

end ResultMode

------------------------------------------------------------
-- Simulators
------------------------------------------------------------

/- The bits of the live qubits and the recorded outcomes. -/
structure Toffoli (R : Type) where
  name : String
  qubits : HandleTable QubitId Bool
  results : HandleTable ResultId Bool
  mode : ResultMode

namespace Toffoli

variable {R : Type}

/- The simulator without qubits. -/
def start
    (mode : ResultMode) : Toffoli R :=
  { name := "toffoli"
    qubits := HandleTable.empty
    results := HandleTable.empty.withBase ResultId.firstDynamic
    mode := mode }

/- Recycle the handles of released qubits. -/
def withQubitReuse
    (sim : Toffoli R) : Toffoli R :=
  { sim with qubits := HandleTable.recycling }

/- The simulator with the options in the settings. -/
def ofSettings
    (settings : BackendSettings) : Except BackendError (Toffoli R) := do
  let mode ←
    match settings.text? "result_mode" with
    | some word => ResultMode.ofText word
    | none => .ok .tracked
  let sim : Toffoli R := start mode
  let sim :=
    if settings.flag? "reuse_qubits" = some true then
      sim.withQubitReuse
    else
      sim
  .ok { sim with name := settings.name }

------------------------------------------------------------
-- Views
------------------------------------------------------------

/- The number of live qubits. -/
def qubitCount
    (sim : Toffoli R) : Nat :=
  sim.qubits.liveCount

/- The number of live results. -/
def resultCount
    (sim : Toffoli R) : Nat :=
  sim.results.liveCount

/- The bit of a live qubit. -/
def qubitState
    (sim : Toffoli R)
    (q : QubitId) : Except BackendError Bool :=
  sim.qubits.get q "qubit_state"

/- The outcome that a result stands for. -/
def value
    (sim : Toffoli R)
    (operation : String)
    (r : ResultId) : Except BackendError Bool :=
  match r.constantValue with
  | some bit => .ok bit
  | none => sim.results.get r operation

------------------------------------------------------------
-- Operations
------------------------------------------------------------

/- Refuse the gates that create superposition. -/
def checkGate
    [Scalar R]
    (sim : Toffoli R)
    (operation : String)
    (g : Gate R) : Except BackendError Unit :=
  if g.IsBitFlip ∨ g.IsDiagonal then
    .ok ()
  else
    .error (.unsupported sim.name
      (operation ++ "(" ++ g.text ++ ") creates superposition"))

/- Flip the bit of a live qubit if the gate is a bit flip. -/
def flipBit
    (g : Gate R)
    (operation : String)
    (target : QubitId) : Action (Toffoli R) BackendError Unit := do
  let sim ← get
  let bit ← Action.ofExcept (sim.qubits.get target operation)
  if g.IsBitFlip then
    let qubits ←
      Action.ofExcept (sim.qubits.replace target operation (!bit))
    modify ({ · with qubits := qubits })

/- Issue a qubit that is zero. -/
def allocateQubit : Action (Toffoli R) BackendError QubitId := do
  let sim ← get
  let (q, qubits) := sim.qubits.insert false
  modify ({ · with qubits := qubits })
  pure q

/- Release a qubit. -/
def releaseQubit
    (q : QubitId) : Action (Toffoli R) BackendError Unit := do
  let sim ← get
  let (_, qubits) ← Action.ofExcept (sim.qubits.release q "release_qubit")
  modify ({ · with qubits := qubits })

/- Apply a gate to a live qubit. -/
def apply
    [Scalar R]
    (g : Gate R)
    (target : QubitId) : Action (Toffoli R) BackendError Unit := do
  let sim ← get
  let _ ← Action.ofExcept (sim.qubits.get target "apply")
  Action.ofExcept (sim.checkGate "apply" g)
  flipBit g "apply" target

/- Whether all of some live qubits are one, up to the first that is not. -/
def allOne
    (qubits : HandleTable QubitId Bool) : List QubitId → Except BackendError Bool
  | [] => .ok true
  | c :: rest => do
      let bit ← qubits.get c "apply_controlled"
      if bit then allOne qubits rest else .ok false

/- Apply a gate to a live qubit if all controls are one. -/
def applyControlled
    [Scalar R]
    (g : Gate R)
    (controls : List QubitId)
    (target : QubitId) : Action (Toffoli R) BackendError Unit := do
  let sim ← get
  let _ ← Action.ofExcept (sim.qubits.get target "apply_controlled")
  Action.ofExcept (sim.qubits.checkLive "apply_controlled" controls)
  Action.ofExcept (checkDistinct controls target)
  Action.ofExcept (sim.checkGate "apply_controlled" g)
  if ← Action.ofExcept (allOne sim.qubits controls) then
    flipBit g "apply_controlled" target

/- Measure one live qubit and hand out the outcome. -/
def measure
    (bases : List Pauli)
    (targets : List QubitId) : Action (Toffoli R) BackendError ResultId := do
  let sim ← get
  let (basis, target) ←
    Action.ofExcept (singleMeasurement sim.name bases targets)
  let bit ← Action.ofExcept (sim.qubits.get target "measure")
  let outcome ←
    match basis with
    | .z => pure bit
    | .i => pure false
    | .x | .y =>
        throw (.unsupported sim.name s!"measure in the {basis.text} basis")
  match sim.mode with
  | .tracked =>
      let (r, results) := sim.results.insert outcome
      modify ({ · with results := results })
      pure r
  | .canonical => pure (ResultId.ofBool outcome)

/-
  Whether two results stand for the same outcome. When all
  results are constants they can be compared by name.
-/
def areEqualResults
    (sim : Toffoli R)
    (r₁ r₂ : ResultId) : Except BackendError Bool :=
  match sim.mode with
  | .tracked => do
      let bit₁ ← sim.value "result_equal" r₁
      let bit₂ ← sim.value "result_equal" r₂
      .ok (bit₁ = bit₂)
  | .canonical => .ok (r₁ = r₂)

/- Release a result. Constants stay. -/
def releaseResult
    (r : ResultId) : Action (Toffoli R) BackendError Unit := do
  let sim ← get
  if r.IsConstant ∨ sim.mode = .canonical then
    pure ()
  else
    let (_, results) ←
      Action.ofExcept (sim.results.release r "release_result")
    modify ({ · with results := results })

instance [Scalar R] : Backend R (Toffoli R) where
  name := Toffoli.name
  allocateQubit := allocateQubit
  releaseQubit := releaseQubit
  apply := apply
  applyControlled := applyControlled
  measure := measure
  areEqualResults := areEqualResults
  releaseResult := releaseResult
  resultValue sim r := sim.value "result_value" r

end Toffoli

end QuantumRuntime

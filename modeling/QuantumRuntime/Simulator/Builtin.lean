import QuantumRuntime.Backend.Pinned
import QuantumRuntime.Backend.Registry
import QuantumRuntime.Backend.Stub
import QuantumRuntime.Simulator.FullState
import QuantumRuntime.Simulator.Toffoli
import QuantumRuntime.Simulator.Tracer

/-
  This file defines the built-in backends as one type, what can
  be observed of each from outside, and the registry that holds
  them under their names.

  Key definitions include:
    * `Builtin`
    * `Builtin.make`
    * `Observation`
    * `Observable`
    * `Registry.addBuiltins`
-/

namespace QuantumRuntime

------------------------------------------------------------
-- Built-in backends
------------------------------------------------------------

/- The kinds of built-in backend. -/
inductive BuiltinKind where
  | fullState
  | toffoli
  | tracer
  | stub
deriving DecidableEq, Repr

namespace BuiltinKind

/- All kinds. -/
def all : List BuiltinKind :=
  [fullState, toffoli, tracer, stub]

/- The name under which a kind is registered. -/
def name : BuiltinKind → String
  | fullState => "fullstate"
  | toffoli => "toffoli"
  | tracer => "tracer"
  | stub => "stub"

/- The kind that is registered under a name. -/
def ofName?
    (name : String) : Option BuiltinKind :=
  all.find? fun kind => kind.name = name

end BuiltinKind

/- A built-in backend of any kind. -/
inductive Builtin (R : Type) where
  | fullState (sim : FullState R)
  | toffoli (sim : Toffoli R)
  | tracer (tracer : Tracer R)
  | stub (stub : Stub R)

namespace Builtin

variable {R ε α : Type} [Scalar R]

/- The backend of a kind with the options in the settings. -/
def make
    (source : DrawSource R)
    (kind : BuiltinKind)
    (settings : BackendSettings) : Except BackendError (Builtin R) :=
  match kind with
  | .fullState => fullState <$> FullState.ofSettings source settings
  | .toffoli => toffoli <$> Toffoli.ofSettings settings
  | .tracer => .ok (tracer (Tracer.ofSettings settings))
  | .stub => .ok (stub (Stub.ofSettings settings))

/- Perform the action that belongs to the kind of the backend. -/
def dispatch
    (onFullState : Action (FullState R) ε α)
    (onToffoli : Action (Toffoli R) ε α)
    (onTracer : Action (Tracer R) ε α)
    (onStub : Action (Stub R) ε α) : Action (Builtin R) ε α :=
  Action.ofOutcome fun
    | fullState sim =>
        let (outcome, sim') := onFullState.perform sim
        (outcome, fullState sim')
    | toffoli sim =>
        let (outcome, sim') := onToffoli.perform sim
        (outcome, toffoli sim')
    | tracer t =>
        let (outcome, t') := onTracer.perform t
        (outcome, tracer t')
    | stub s =>
        let (outcome, s') := onStub.perform s
        (outcome, stub s')

instance : Backend R (Builtin R) where
  name
    | fullState sim => Backend.name sim
    | toffoli sim => Backend.name sim
    | tracer t => Backend.name t
    | stub s => Backend.name s
  allocateQubit :=
    dispatch Backend.allocateQubit Backend.allocateQubit
      Backend.allocateQubit Backend.allocateQubit
  releaseQubit q :=
    dispatch (Backend.releaseQubit q) (Backend.releaseQubit q)
      (Backend.releaseQubit q) (Backend.releaseQubit q)
  apply g target :=
    dispatch (Backend.apply g target) (Backend.apply g target)
      (Backend.apply g target) (Backend.apply g target)
  applyControlled g controls target :=
    dispatch (Backend.applyControlled g controls target)
      (Backend.applyControlled g controls target)
      (Backend.applyControlled g controls target)
      (Backend.applyControlled g controls target)
  measure bases targets :=
    dispatch (Backend.measure bases targets)
      (Backend.measure bases targets)
      (Backend.measure bases targets)
      (Backend.measure bases targets)
  areEqualResults
    | fullState sim => Backend.areEqualResults sim
    | toffoli sim => Backend.areEqualResults sim
    | tracer t => Backend.areEqualResults t
    | stub s => Backend.areEqualResults s
  releaseResult r :=
    dispatch (Backend.releaseResult r) (Backend.releaseResult r)
      (Backend.releaseResult r) (Backend.releaseResult r)
  zeroResult
    | fullState sim => Backend.zeroResult sim
    | toffoli sim => Backend.zeroResult sim
    | tracer t => Backend.zeroResult t
    | stub s => Backend.zeroResult s
  oneResult
    | fullState sim => Backend.oneResult sim
    | toffoli sim => Backend.oneResult sim
    | tracer t => Backend.oneResult t
    | stub s => Backend.oneResult s
  resultValue
    | fullState sim => Backend.resultValue sim
    | toffoli sim => Backend.resultValue sim
    | tracer t => Backend.resultValue t
    | stub s => Backend.resultValue s

end Builtin

------------------------------------------------------------
-- Observations
------------------------------------------------------------

/- What can be seen of a backend as a whole. -/
inductive Observation (R : Type) where
  | fullState
      (qubits results : Nat)
      (probabilities : List (QubitId × Except BackendError R))
  | toffoli
      (qubits results : Nat)
      (bits : List (QubitId × Except BackendError Bool))
      (mode : ResultMode)
  | tracer (metrics : Metrics)
  | nothing

/- What can be seen of one qubit. -/
inductive Look (R : Type) where
  | probability (p : R)
  | bit (value : Bool)
  | nothing

/- Backends that can be looked into. -/
class Observable (R : outParam Type) (β : Type) where
  observe : β → Observation R
  look : β → QubitId → Except BackendError (Look R)
  takeMetrics : Action β BackendError (Option Metrics)

instance {R : Type} [Scalar R] : Observable R (Builtin R) where
  observe
    | .fullState sim =>
        .fullState sim.qubitCount sim.resultCount
          (sim.qubits.liveHandles.map fun q => (q, sim.probabilityOne q))
    | .toffoli sim =>
        .toffoli sim.qubitCount sim.resultCount
          (sim.qubits.liveHandles.map fun q => (q, sim.qubitState q))
          sim.mode
    | .tracer t => .tracer t.metrics
    | .stub _ => .nothing
  look
    | .fullState sim, q => Look.probability <$> sim.probabilityOne q
    | .toffoli sim, q => Look.bit <$> sim.qubitState q
    | _, _ => .ok .nothing
  takeMetrics :=
    Builtin.dispatch (pure none) (pure none)
      (some <$> Tracer.takeMetrics) (pure none)

------------------------------------------------------------
-- Devices
------------------------------------------------------------

/-
  A built-in backend with pinned qubits. A sealed device shows
  nothing of itself besides its operations.
-/
structure Device (R : Type) where
  backend : Pinned (Builtin R)
  isSealed : Bool

namespace Device

variable {R : Type} [Scalar R]

/- Pass an action on to the backend. -/
def forward
    {ε α : Type}
    (action : Action (Pinned (Builtin R)) ε α) : Action (Device R) ε α :=
  action.onPart Device.backend fun b device => { device with backend := b }

instance : Backend R (Device R) where
  name device := Backend.name device.backend
  allocateQubit := forward Backend.allocateQubit
  releaseQubit q := forward (Backend.releaseQubit q)
  apply g target := forward (Backend.apply g target)
  applyControlled g controls target :=
    forward (Backend.applyControlled g controls target)
  measure bases targets := forward (Backend.measure bases targets)
  areEqualResults device := Backend.areEqualResults device.backend
  releaseResult r := forward (Backend.releaseResult r)
  zeroResult device := Backend.zeroResult device.backend
  oneResult device := Backend.oneResult device.backend
  resultValue device := Backend.resultValue device.backend

instance : Observable R (Device R) where
  observe device :=
    if device.isSealed then
      .nothing
    else
      Observable.observe device.backend.base
  look device q :=
    if device.isSealed then
      .ok .nothing
    else
      Observable.look device.backend.base q
  takeMetrics := do
    let device ← get
    if device.isSealed then
      pure none
    else
      forward (Pinned.forward Observable.takeMetrics)

end Device

------------------------------------------------------------
-- The registry of built-in backends
------------------------------------------------------------

namespace Registry

variable {R : Type} [Scalar R]

/- Register every built-in backend under its own name. -/
def addBuiltins
    (source : DrawSource R)
    (registry : Registry (Builtin R)) : Registry (Builtin R) :=
  BuiltinKind.all.foldl
    (fun registry kind => registry.add kind.name (Builtin.make source kind))
    registry

end Registry

end QuantumRuntime

import QuantumRuntime.Simulator.Builtin

/-
  This file defines sessions with one device: steps that put
  requests to it or look into it, one after the other.

  Key definitions include:
    * `DeviceStep`
    * `DeviceAnswer`
    * `DeviceStep.run`
    * `Device.make`
    * `Device.session`
-/

namespace QuantumRuntime

------------------------------------------------------------
-- Steps
------------------------------------------------------------

/-
  A step of a session. A step whose gate or basis could not be
  read is rejected without reaching the device.
-/
inductive DeviceStep (R : Type) where
  | name
  | request (r : Request R)
  | zero
  | one
  | inspect
  | look (q : QubitId)
  | takeMetrics
  | rejected (cause : BackendError)
deriving DecidableEq, Repr

/- What a step answers when it succeeds. -/
inductive DeviceAnswer (R : Type) where
  | name (text : String)
  | reply (reply : Reply)
  | observation (seen : Observation R)
  | look (seen : Look R)
  | metrics (taken : Option Metrics)

namespace DeviceStep

variable {β R : Type} [Scalar R] [Backend R β] [Observable R β]

/- Take a step. -/
def run : DeviceStep R → Action β BackendError (DeviceAnswer R)
  | name => Action.query fun b => .ok (.name (Backend.name b))
  | request r => DeviceAnswer.reply <$> r.run
  | zero =>
      Action.query fun b => .ok (.reply (.result (Backend.zeroResult b)))
  | one =>
      Action.query fun b => .ok (.reply (.result (Backend.oneResult b)))
  | inspect =>
      Action.query fun b => .ok (.observation (Observable.observe b))
  | look q =>
      DeviceAnswer.look <$> Action.query fun b => Observable.look b q
  | takeMetrics => DeviceAnswer.metrics <$> Observable.takeMetrics
  | rejected cause => throw cause

end DeviceStep

------------------------------------------------------------
-- Devices
------------------------------------------------------------

/-
  How a device is made: as a backend of a kind, or through the
  registry of built-in backends, which seals it.
-/
inductive DeviceKind where
  | direct (kind : BuiltinKind)
  | registered
deriving DecidableEq, Repr

namespace Device

variable {R : Type} [Scalar R]

/- The device of a kind with some settings and pinned qubits. -/
def make
    (source : DrawSource R)
    (kind : DeviceKind)
    (pinned : List QubitId)
    (settings : BackendSettings) : Except BackendError (Device R) := do
  let backend ←
    match kind with
    | .direct kind => Builtin.make source kind settings
    | .registered =>
        (Registry.empty.addBuiltins source).create settings
  .ok
    { backend := { base := backend, qubits := pinned }
      isSealed := kind = .registered }

/-
  Take steps one after the other. After each the device is
  looked at. A failed step does not stop the ones after it.
-/
def session
    (device : Device R) :
    List (DeviceStep R) →
      List (Except BackendError (DeviceAnswer R) × Observation R)
  | [] => []
  | step :: rest =>
      let (answer, device') := step.run.perform device
      (answer, Observable.observe device') :: session device' rest

end Device

end QuantumRuntime

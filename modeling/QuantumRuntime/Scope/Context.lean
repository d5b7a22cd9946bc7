import QuantumRuntime.Backend.Interface
import QuantumRuntime.Config.RunConfig
import QuantumRuntime.Scope.Tracker

/-
  This file defines the context in which programs run: a stack
  of scopes over a number of backends. Every operation goes to
  the backend of the innermost scope, and the handles that
  operation creates or ends are recorded in that scope.

  Key definitions include:
    * `Frame`
    * `Notice`
    * `Context`
    * `Program`
    * `Context.allocateQubit`
    * `Context.releaseQubit`
    * `Context.measure`
    * `Context.apply`
-/

namespace QuantumRuntime

------------------------------------------------------------
-- Notices
------------------------------------------------------------

/- How serious a notice is. -/
inductive NoticeLevel where
  | warning
  | error
deriving DecidableEq, Repr

namespace NoticeLevel

/- The name of a level. -/
def text : NoticeLevel → String
  | warning => "WARN"
  | error => "ERROR"

end NoticeLevel

/- What is noted without stopping a program. -/
inductive Notice where
  | scopeLeaked (depth : Nat) (report : LeakReport)
  | scopeReclaimed (depth : Nat) (report : LeakReport)
  | notReclaimedResult (r : ResultId) (cause : BackendError)
  | notReclaimedQubit (q : QubitId) (cause : BackendError)
  | rollbackFailed (q : QubitId) (cause : ProgramError)
  | droppedWithLeaks (report : LeakReport)
  | teardownFailed (cause : ProgramError)
  | failedAndLeaked (cause : ProgramError)
deriving DecidableEq, Repr

namespace Notice

/- The level of a notice. Only dropped scopes are errors. -/
def level : Notice → NoticeLevel
  | droppedWithLeaks _ => .error
  | teardownFailed _ => .error
  | _ => .warning

/- The wording of a notice. -/
def text : Notice → String
  | scopeLeaked depth report =>
      s!"Scope {depth} ended with leaked handles: {report.text}"
  | scopeReclaimed depth report =>
      s!"Scope {depth} reclaimed leaked handles: {report.text}"
  | notReclaimedResult r cause =>
      s!"Could not reclaim {r.text}: {cause.text}"
  | notReclaimedQubit q cause =>
      s!"Could not reclaim {q.text}: {cause.text}"
  | rollbackFailed q cause =>
      s!"Rollback could not release {q.text}: {cause.text}"
  | droppedWithLeaks report =>
      s!"Scope dropped without finish with leaked handles: {report.text}"
  | teardownFailed cause => s!"Scope teardown failed: {cause.text}"
  | failedAndLeaked cause => s!"Program failed and leaked: {cause.text}"

end Notice

------------------------------------------------------------
-- Contexts
------------------------------------------------------------

/-
  One open scope: the number of its backend, if it has one, and
  its record of handles, if it keeps one.
-/
structure Frame (n : Nat) where
  device : Option (Fin n)
  tracker : Option Tracker

/-
  The state of a run: its configuration, the open scopes with
  the innermost first, the backends, and the notices so far.
-/
structure Context (n : Nat) (β : Type) where
  config : RunConfig
  frames : List (Frame n)
  devices : Vector β n
  notices : List Notice

/- A program changes a context and answers or fails. -/
abbrev Program (n : Nat) (β α : Type) :=
  Action (Context n β) ProgramError α

namespace Context

variable {n : Nat} {β α : Type}

/- The context over some backends in which no scope is open. -/
def start
    (config : RunConfig)
    (devices : Vector β n) : Context n β :=
  { config := config
    frames := []
    devices := devices
    notices := [] }

/- The number of open scopes. -/
def depth
    (ctx : Context n β) : Nat :=
  ctx.frames.length

/- Add a notice. -/
def note
    (notice : Notice) : Program n β Unit :=
  modify fun ctx => { ctx with notices := ctx.notices ++ [notice] }

/- Perform an action on one of the backends. -/
def onDevice
    {ε : Type}
    (device : Fin n)
    (action : Action β ε α) : Action (Context n β) ε α :=
  action.onPart
    (fun ctx => ctx.devices.get device)
    (fun b ctx => { ctx with devices := ctx.devices.set device b })

------------------------------------------------------------
-- The innermost scope
------------------------------------------------------------

/- The number of the backend of the innermost scope. -/
def currentDevice
    (ctx : Context n β) : Except ProgramError (Fin n) :=
  match ctx.frames with
  | [] => .error .noActiveScope
  | frame :: _ =>
      match frame.device with
      | some device => .ok device
      | none => .error .noBackend

/- Perform an action on the backend of the innermost scope. -/
def onBackend
    (action : Action β BackendError α) : Program n β α := do
  let ctx ← get
  let device ← Action.ofExcept ctx.currentDevice
  onDevice device (action.mapError ProgramError.backend)

/- Ask the backend of the innermost scope, which stays as it is. -/
def askBackend
    (ask : β → Except BackendError α) : Program n β α :=
  onBackend (Action.query ask)

/- Change the record of the innermost scope, if it keeps one. -/
def recordInFrame
    (change : Tracker → Tracker) : Program n β Unit :=
  modify fun ctx =>
    match ctx.frames with
    | [] => ctx
    | frame :: outer =>
        { ctx with
          frames :=
            { frame with tracker := frame.tracker.map change } :: outer }

/- Open a scope, with or without a backend and a record. -/
def openScope
    (device : Option (Fin n))
    (track : Bool) : Program n β Unit :=
  modify fun ctx =>
    { ctx with
      frames :=
        { device := device
          tracker := if track then some Tracker.empty else none } ::
          ctx.frames }

------------------------------------------------------------
-- Recorded operations
------------------------------------------------------------

section

variable {R : Type} [Scalar R] [Backend R β]

/- Allocate a qubit and record it. -/
def allocateQubit : Program n β QubitId := do
  let q ← onBackend Backend.allocateQubit
  recordInFrame (Tracker.trackQubit q)
  pure q

/- Release a qubit and forget it. -/
def releaseQubit
    (q : QubitId) : Program n β Unit := do
  onBackend (Backend.releaseQubit q)
  recordInFrame (Tracker.untrackQubit q)

/- Measure and record the result. -/
def measure
    (bases : List Pauli)
    (targets : List QubitId) : Program n β ResultId := do
  let r ← onBackend (Backend.measure bases targets)
  recordInFrame (Tracker.trackResult r)
  pure r

/- Release a result and forget it. -/
def releaseResult
    (r : ResultId) : Program n β Unit := do
  onBackend (Backend.releaseResult r)
  recordInFrame (Tracker.untrackResult r)

------------------------------------------------------------
-- Other operations
------------------------------------------------------------

/- Apply a gate. -/
def apply
    (g : Gate R)
    (target : QubitId) : Program n β Unit :=
  onBackend (Backend.apply g target)

/- Apply a controlled gate. -/
def applyControlled
    (g : Gate R)
    (controls : List QubitId)
    (target : QubitId) : Program n β Unit :=
  onBackend (Backend.applyControlled g controls target)

/- Whether two results stand for the same outcome. -/
def areEqualResults
    (r₁ r₂ : ResultId) : Program n β Bool :=
  askBackend fun b => Backend.areEqualResults b r₁ r₂

/- The outcome that a result stands for. -/
def resultValue
    (r : ResultId) : Program n β Bool :=
  askBackend fun b => Backend.resultValue b r

/- The constant for the outcome zero of the current backend. -/
def zeroResult : Program n β ResultId :=
  askBackend fun b => .ok (Backend.zeroResult b)

/- The constant for the outcome one of the current backend. -/
def oneResult : Program n β ResultId :=
  askBackend fun b => .ok (Backend.oneResult b)

/- The name of the current backend. -/
def backendName : Program n β String :=
  askBackend fun b => .ok (Backend.name b)

end

end Context

end QuantumRuntime

import QuantumRuntime.Proofs.Backend.Exchanges
import QuantumRuntime.Scope.Context

/-
  This file puts the operations of a context on the innermost
  scope into one form. A request goes to the backend of that
  scope, and its answer is followed by the record of handles;
  without such a backend nothing happens at all.

  Key definitions include:
    * `Tracker.follow`
    * `Tracker.followAll`
    * `Context.withDevice`
    * `Context.recorded`
    * `Context.put`

  Key theorems include:
    * `Context.perform_onBackend`
    * `Context.perform_put`
    * `Context.perform_put_frames_of_error`
-/

namespace QuantumRuntime

------------------------------------------------------------
-- Records
------------------------------------------------------------

namespace Tracker

variable {R : Type}

/-
  What a record makes of an exchange. Only accepted requests
  that create or end a handle change it.
-/
def follow
    (exchange : Exchange R)
    (tracker : Tracker) : Tracker :=
  match exchange with
  | (.allocateQubit, .ok (.qubit q)) => tracker.trackQubit q
  | (.releaseQubit q, .ok _) => tracker.untrackQubit q
  | (.measure _ _, .ok (.result r)) => tracker.trackResult r
  | (.releaseResult r, .ok _) => tracker.untrackResult r
  | _ => tracker

/- What a record makes of exchanges one after the other. -/
def followAll
    (exchanges : List (Exchange R))
    (tracker : Tracker) : Tracker :=
  exchanges.foldl (fun tracker exchange => tracker.follow exchange)
    tracker

@[simp] theorem followAll_nil
    (tracker : Tracker) :
    tracker.followAll ([] : List (Exchange R)) = tracker :=
  rfl

@[simp] theorem followAll_cons
    (exchange : Exchange R)
    (rest : List (Exchange R))
    (tracker : Tracker) :
    tracker.followAll (exchange :: rest) =
      (tracker.follow exchange).followAll rest :=
  rfl

@[simp] theorem followAll_singleton
    (exchange : Exchange R)
    (tracker : Tracker) :
    tracker.followAll [exchange] = tracker.follow exchange :=
  rfl

theorem followAll_append
    (first second : List (Exchange R))
    (tracker : Tracker) :
    tracker.followAll (first ++ second) =
      (tracker.followAll first).followAll second :=
  List.foldl_append

/- A refusal leaves a record as it is. -/
@[simp] theorem follow_error
    (request : Request R)
    (e : BackendError)
    (tracker : Tracker) :
    tracker.follow (request, .error e) = tracker := by
  cases request <;> rfl

/- A query leaves a record as it is. -/
theorem follow_of_isQuery
    {request : Request R}
    (hQuery : request.IsQuery)
    (answer : Except BackendError Reply)
    (tracker : Tracker) :
    tracker.follow (request, answer) = tracker := by
  cases request with
  | areEqualResults r₁ r₂ => rfl
  | resultValue r => rfl
  | _ => exact hQuery.elim

end Tracker

namespace Frame

variable {n : Nat}

/- The frame after a change of its record, if it keeps one. -/
def recorded
    (change : Tracker → Tracker)
    (frame : Frame n) : Frame n :=
  { frame with tracker := frame.tracker.map change }

theorem recorded_id :
    (recorded fun tracker => tracker : Frame n → Frame n) = id := by
  funext frame
  simp [recorded]

theorem recorded_comp
    (first second : Tracker → Tracker) :
    (recorded second ∘ recorded first : Frame n → Frame n) =
      recorded fun tracker => second (first tracker) := by
  funext frame
  simp [recorded, Function.comp_def]

end Frame

------------------------------------------------------------
-- Changes of a context
------------------------------------------------------------

namespace Context

variable {n : Nat} {β α : Type}

/- The context after one of its backends has changed. -/
def withDevice
    (device : Fin n)
    (b : β)
    (ctx : Context n β) : Context n β :=
  { ctx with devices := ctx.devices.set device b device.isLt }

/- The context after the innermost record has changed. -/
def recorded
    (change : Tracker → Tracker)
    (ctx : Context n β) : Context n β :=
  { ctx with
    frames := ctx.frames.modifyHead (Frame.recorded change) }

theorem get_devices_withDevice
    (device other : Fin n)
    (b : β)
    (ctx : Context n β) :
    (ctx.withDevice device b).devices.get other =
      if other = device then b else ctx.devices.get other := by
  by_cases hSame : other = device
  · rw [if_pos hSame, hSame]
    exact Vector.getElem_set_self device.isLt
  · rw [if_neg hSame]
    exact Vector.getElem_set_ne device.isLt other.isLt
      fun hEq => hSame (Fin.ext hEq.symm)

/- Putting a backend where it is changes nothing. -/
theorem withDevice_get
    (device : Fin n)
    (ctx : Context n β) :
    ctx.withDevice device (ctx.devices.get device) = ctx := by
  have hSet :
      ctx.devices.set device (ctx.devices.get device) =
        ctx.devices :=
    Vector.set_getElem_self device.isLt
  rw [withDevice, hSet]

theorem withDevice_withDevice
    (device : Fin n)
    (first second : β)
    (ctx : Context n β) :
    (ctx.withDevice device first).withDevice device second =
      ctx.withDevice device second := by
  simp only [withDevice, Vector.set_set]

/- A record that stays as it is changes nothing. -/
theorem recorded_id
    (ctx : Context n β) :
    ctx.recorded (fun tracker => tracker) = ctx := by
  rw [recorded, Frame.recorded_id, List.modifyHead_id]
  rfl

/- An exchange that a record does not follow changes nothing. -/
theorem recorded_of_follow
    {R : Type}
    {exchange : Exchange R}
    (hFollow : ∀ tracker : Tracker, tracker.follow exchange = tracker)
    (ctx : Context n β) :
    ctx.recorded (Tracker.follow exchange) = ctx := by
  rw [show Tracker.follow exchange = fun tracker => tracker
    from funext hFollow]
  exact ctx.recorded_id

------------------------------------------------------------
-- Operations on the innermost scope
------------------------------------------------------------

/- Without a scope no backend is current. -/
theorem currentDevice_of_nil
    {ctx : Context n β}
    (hFrames : ctx.frames = []) :
    ctx.currentDevice = .error .noActiveScope := by
  simp [currentDevice, hFrames]

/- The backend of the innermost scope is current, if it has one. -/
theorem currentDevice_of_cons
    {ctx : Context n β}
    {frame : Frame n}
    {outer : List (Frame n)}
    (hFrames : ctx.frames = frame :: outer) :
    ctx.currentDevice =
      match frame.device with
      | some device => .ok device
      | none => .error .noBackend := by
  cases hDevice : frame.device <;>
    simp [currentDevice, hFrames, hDevice]

/- Changing the record does not change which backend is current. -/
@[simp] theorem currentDevice_recorded
    (change : Tracker → Tracker)
    (ctx : Context n β) :
    (ctx.recorded change).currentDevice = ctx.currentDevice := by
  cases hFrames : ctx.frames with
  | nil => simp [currentDevice, recorded, hFrames]
  | cons frame outer =>
      simp [currentDevice, recorded, hFrames, Frame.recorded]

theorem perform_onDevice
    {ε : Type}
    (device : Fin n)
    (action : Action β ε α)
    (ctx : Context n β) :
    (onDevice device action).perform ctx =
      ((action.perform (ctx.devices.get device)).1,
        ctx.withDevice device
          (action.perform (ctx.devices.get device)).2) :=
  rfl

/-
  An operation acts on the backend of the innermost scope and
  changes nothing else. If there is no such backend, it fails
  and changes nothing.
-/
theorem perform_onBackend
    (action : Action β BackendError α)
    (ctx : Context n β) :
    (onBackend action).perform ctx =
      match ctx.currentDevice with
      | .ok device =>
          ((action.perform (ctx.devices.get device)).1.mapError
              ProgramError.backend,
            ctx.withDevice device
              (action.perform (ctx.devices.get device)).2)
      | .error e => (.error e, ctx) := by
  simp only [onBackend, Action.perform_bind, Action.perform_get,
    Action.perform_ofExcept]
  cases ctx.currentDevice <;> rfl

theorem perform_askBackend
    (ask : β → Except BackendError α)
    (ctx : Context n β) :
    (askBackend ask).perform ctx =
      match ctx.currentDevice with
      | .ok device =>
          ((ask (ctx.devices.get device)).mapError
            ProgramError.backend, ctx)
      | .error e => (.error e, ctx) := by
  rw [askBackend, perform_onBackend]
  cases ctx.currentDevice with
  | error e => rfl
  | ok device =>
      simp only [Action.perform_query, withDevice_get]

theorem perform_recordInFrame
    (change : Tracker → Tracker)
    (ctx : Context n β) :
    (recordInFrame change).perform ctx =
      (.ok (), ctx.recorded change) := by
  rw [recordInFrame, Action.perform_modify]
  rcases ctx with ⟨config, _ | ⟨frame, outer⟩, devices, notices⟩
  · rfl
  · rfl

------------------------------------------------------------
-- Requests
------------------------------------------------------------

section

variable {R : Type} [Scalar R] [Backend R β]

/- Put a request to the innermost scope. -/
def put : Request R → Program n β Reply
  | .allocateQubit => Reply.qubit <$> allocateQubit
  | .releaseQubit q => (fun _ => .done) <$> releaseQubit q
  | .apply g target => (fun _ => .done) <$> apply g target
  | .applyControlled g controls target =>
      (fun _ => .done) <$> applyControlled g controls target
  | .measure bases targets => Reply.result <$> measure bases targets
  | .areEqualResults r₁ r₂ => Reply.bit <$> areEqualResults r₁ r₂
  | .releaseResult r => (fun _ => .done) <$> releaseResult r
  | .resultValue r => Reply.bit <$> resultValue r

/-
  What a request does in a context: its answer, and the context
  with the backend of the innermost scope after it and with the
  record of that scope following the answer.
-/
def exchange
    (request : Request R)
    (ctx : Context n β) : Except ProgramError Reply × Context n β :=
  match ctx.currentDevice with
  | .ok device =>
      let run := request.run.perform (ctx.devices.get device)
      (run.1.mapError ProgramError.backend,
        (ctx.withDevice device run.2).recorded
          (Tracker.follow (request, run.1)))
  | .error e => (.error e, ctx)

/- Operations whose answers are recorded are requests. -/
theorem perform_recording
    {request : Request R}
    (action : Action β BackendError α)
    (reply : α → Reply)
    (change : α → Tracker → Tracker)
    (hRun : (request.run : Action β BackendError Reply) = reply <$> action)
    (hFollow : ∀ a, Tracker.follow (request, .ok (reply a)) = change a)
    (ctx : Context n β) :
    (reply <$> do
        let a ← onBackend action
        recordInFrame (change a)
        pure a : Program n β Reply).perform ctx =
      ctx.exchange request := by
  simp only [exchange, hRun, Action.perform_map,
    Action.perform_bind, perform_onBackend,
    perform_recordInFrame, Action.perform_pure]
  cases ctx.currentDevice with
  | error e => rfl
  | ok device =>
      dsimp only
      rcases action.perform (ctx.devices.get device) with
        ⟨e | a, b⟩
      · exact Prod.ext rfl
          (recorded_of_follow (Tracker.follow_error request e) _).symm
      · exact Prod.ext rfl
          (congrArg (fun f => (ctx.withDevice device b).recorded f)
            (hFollow a)).symm

/- Operations whose answers are not recorded are requests. -/
theorem perform_unrecorded
    {request : Request R}
    (action : Action β BackendError α)
    (reply : α → Reply)
    (hRun : (request.run : Action β BackendError Reply) = reply <$> action)
    (hFollow :
      ∀ answer tracker,
        Tracker.follow (request, answer) tracker = tracker)
    (ctx : Context n β) :
    (reply <$> onBackend action : Program n β Reply).perform ctx =
      ctx.exchange request := by
  simp only [exchange, hRun, Action.perform_map,
    perform_onBackend, recorded_of_follow (hFollow _)]
  cases ctx.currentDevice with
  | error e => rfl
  | ok device =>
      dsimp only
      rcases action.perform (ctx.devices.get device) with
        ⟨e | a, b⟩ <;> rfl

theorem releaseQubit_eq
    (q : QubitId) :
    (releaseQubit q : Program n β Unit) =
      (do
        let a ← onBackend (Backend.releaseQubit q)
        recordInFrame (Tracker.untrackQubit q)
        pure a) := by
  simp only [releaseQubit, bind_pure_unit]

theorem releaseResult_eq
    (r : ResultId) :
    (releaseResult r : Program n β Unit) =
      (do
        let a ← onBackend (Backend.releaseResult r)
        recordInFrame (Tracker.untrackResult r)
        pure a) := by
  simp only [releaseResult, bind_pure_unit]

/-
  A request is put to the backend of the innermost scope, and
  the record of that scope follows the answer.
-/
theorem perform_put
    (request : Request R)
    (ctx : Context n β) :
    (put request).perform ctx = ctx.exchange request := by
  cases request with
  | allocateQubit =>
      exact perform_recording Backend.allocateQubit Reply.qubit
        Tracker.trackQubit rfl (fun _ => rfl) ctx
  | releaseQubit q =>
      rw [put, releaseQubit_eq]
      exact perform_recording (Backend.releaseQubit q)
        (fun _ => .done) (fun _ => Tracker.untrackQubit q)
        rfl (fun _ => rfl) ctx
  | apply g target =>
      exact perform_unrecorded (Backend.apply g target)
        (fun _ => .done) rfl (fun _ _ => rfl) ctx
  | applyControlled g controls target =>
      exact perform_unrecorded
        (Backend.applyControlled g controls target)
        (fun _ => .done) rfl (fun _ _ => rfl) ctx
  | measure bases targets =>
      exact perform_recording (Backend.measure bases targets)
        Reply.result Tracker.trackResult rfl (fun _ => rfl) ctx
  | areEqualResults r₁ r₂ =>
      exact perform_unrecorded
        (Action.query fun b => Backend.areEqualResults b r₁ r₂)
        Reply.bit rfl (fun _ _ => rfl) ctx
  | releaseResult r =>
      rw [put, releaseResult_eq]
      exact perform_recording (Backend.releaseResult r)
        (fun _ => .done) (fun _ => Tracker.untrackResult r)
        rfl (fun _ => rfl) ctx
  | resultValue r =>
      exact perform_unrecorded
        (Action.query fun b => Backend.resultValue b r)
        Reply.bit rfl (fun _ _ => rfl) ctx

/- A request that fails changes no record of any scope. -/
theorem perform_put_frames_of_error
    {request : Request R}
    {ctx : Context n β}
    {e : ProgramError}
    (hError : ((put request).perform ctx).1 = .error e) :
    ((put request).perform ctx).2.frames = ctx.frames := by
  rw [perform_put, exchange] at hError ⊢
  cases hCurrent : ctx.currentDevice with
  | error e => rfl
  | ok device =>
      rw [hCurrent] at hError
      dsimp only at hError ⊢
      cases hAnswer :
          (request.run.perform (ctx.devices.get device)).1 with
      | ok reply =>
          rw [hAnswer] at hError
          cases hError
      | error cause =>
          rw [recorded_of_follow (Tracker.follow_error request cause)]
          rfl

end

end Context

end QuantumRuntime

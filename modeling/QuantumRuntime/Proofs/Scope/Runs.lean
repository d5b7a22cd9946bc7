import QuantumRuntime.Proofs.Scope.History

/-
  This file puts programs that make several requests in a row
  into one form. The context after such a program is the
  context after a run of requests to the current backend, which
  the record of the innermost scope has followed, and what the
  program has exchanged is the run with the answers to it.

  Key definitions include:
    * `Context.ran`

  Key theorems include:
    * `Context.ran_append`
    * `Context.perform_of_put_ok`
    * `Context.perform_of_put_error`
    * `Routine.history_eq_zip`
-/

namespace QuantumRuntime

variable {R : Type} [Scalar R] {n : Nat} {β α : Type} [Backend R β]

------------------------------------------------------------
-- Contexts after a run
------------------------------------------------------------

namespace Context

theorem recorded_recorded
    (first second : Tracker → Tracker)
    (ctx : Context n β) :
    (ctx.recorded first).recorded second =
      ctx.recorded fun tracker => second (first tracker) := by
  simp only [recorded, List.modifyHead_modifyHead,
    Frame.recorded_comp]

/- A backend that was put in place is found there. -/
@[simp] theorem get_devices_withDevice_self
    (device : Fin n)
    (b : β)
    (ctx : Context n β) :
    (ctx.withDevice device b).devices.get device = b :=
  (get_devices_withDevice device device b ctx).trans (if_pos rfl)

/- Only what becomes of the innermost record matters. -/
theorem recorded_congr
    {ctx : Context n β}
    {device : Option (Fin n)}
    {tracker : Tracker}
    {outer : List (Frame n)}
    {first second : Tracker → Tracker}
    (hFrames :
      ctx.frames =
        { device := device
          tracker := some tracker } :: outer)
    (hSame : first tracker = second tracker) :
    ctx.recorded first = ctx.recorded second := by
  simp only [recorded, hFrames, List.modifyHead_cons,
    Frame.recorded, Option.map_some, hSame]

/-
  The context after some requests to one of its backends, with
  the innermost record following the answers.
-/
def ran
    (device : Fin n)
    (requests : List (Request R))
    (ctx : Context n β) : Context n β :=
  let run := runRequests (ctx.devices.get device) requests
  (ctx.withDevice device run.2).recorded
    (Tracker.followAll (requests.zip run.1))

variable {ctx : Context n β} {device : Fin n}

@[simp] theorem ran_nil
    (device : Fin n)
    (ctx : Context n β) :
    ctx.ran device ([] : List (Request R)) = ctx := by
  rw [ran, runRequests_nil, withDevice_get]
  exact ctx.recorded_id

@[simp] theorem currentDevice_ran
    (device : Fin n)
    (requests : List (Request R))
    (ctx : Context n β) :
    (ctx.ran device requests).currentDevice =
      ctx.currentDevice :=
  currentDevice_recorded _ _

@[simp] theorem get_devices_ran
    (device : Fin n)
    (requests : List (Request R))
    (ctx : Context n β) :
    (ctx.ran device requests).devices.get device =
      (runRequests (ctx.devices.get device) requests).2 :=
  get_devices_withDevice_self device _ ctx

/- A run goes on where the run before it stopped. -/
theorem ran_append
    (device : Fin n)
    (first second : List (Request R))
    (ctx : Context n β) :
    ctx.ran device (first ++ second) =
      (ctx.ran device first).ran device second := by
  have hLength :
      first.length =
        (runRequests (ctx.devices.get device) first).1.length :=
    (length_runRequests _ first).symm
  have hFollow :=
    fun later : List (Exchange R) =>
      funext
        (Tracker.followAll_append
          (first.zip
            (runRequests (ctx.devices.get device) first).1) later)
  rw [ran, runRequests_append, List.zip_append hLength, hFollow,
    ← recorded_recorded,
    ← withDevice_withDevice device
      (runRequests (ctx.devices.get device) first).2]
  conv_rhs => rw [ran, get_devices_ran]
  rfl

theorem ran_cons
    (device : Fin n)
    (request : Request R)
    (rest : List (Request R))
    (ctx : Context n β) :
    ctx.ran device (request :: rest) =
      (ctx.ran device [request]).ran device rest :=
  ctx.ran_append device [request] rest

/- A request that no record follows changes its backend alone. -/
theorem ran_of_follow
    {request : Request R}
    {answer : Except BackendError Reply}
    {after : β}
    (hRun :
      request.run.perform (ctx.devices.get device) =
        (answer, after))
    (hFollow :
      ∀ tracker : Tracker,
        tracker.follow (request, answer) = tracker) :
    ctx.ran device [request] = ctx.withDevice device after := by
  simp only [ran, runRequests_cons, runRequests_nil, hRun]
  exact recorded_of_follow hFollow _

/- If it leaves the backend as well, it leaves no trace. -/
theorem ran_eq_self
    {request : Request R}
    {answer : Except BackendError Reply}
    (hRun :
      request.run.perform (ctx.devices.get device) =
        (answer, ctx.devices.get device))
    (hFollow :
      ∀ tracker : Tracker,
        tracker.follow (request, answer) = tracker) :
    ctx.ran device [request] = ctx := by
  rw [ran_of_follow hRun hFollow, withDevice_get]

------------------------------------------------------------
-- Operations as requests
------------------------------------------------------------

/- Where a backend is current, a request is a run of its own. -/
theorem exchange_eq_ran
    (hCurrent : ctx.currentDevice = .ok device)
    (request : Request R) :
    ctx.exchange request =
      ((request.run.perform
            (ctx.devices.get device)).1.mapError
          ProgramError.backend,
        ctx.ran device [request]) := by
  simp only [exchange, hCurrent]
  rfl

/- An operation is its request, up to the form of the answer. -/
theorem perform_of_put
    {request : Request R}
    {action : Program n β α}
    {reply : α → Reply}
    (hPut : put request = reply <$> action)
    (hCurrent : ctx.currentDevice = .ok device) :
    (action.perform ctx).1.map reply =
        (request.run.perform
            (ctx.devices.get device)).1.mapError
          ProgramError.backend ∧
      (action.perform ctx).2 = ctx.ran device [request] := by
  have hRun := perform_put request ctx
  rw [hPut, Action.perform_map, exchange_eq_ran hCurrent] at hRun
  exact Prod.mk.inj hRun

/- An operation answers with what is in the reply to its request. -/
theorem perform_of_put_ok
    {request : Request R}
    {action : Program n β α}
    {reply : α → Reply}
    {a : α}
    (hPut : put request = reply <$> action)
    (hReply : Function.Injective reply)
    (hCurrent : ctx.currentDevice = .ok device)
    (hAnswer :
      (request.run.perform (ctx.devices.get device)).1 =
        .ok (reply a)) :
    action.perform ctx = (.ok a, ctx.ran device [request]) := by
  rcases perform_of_put hPut hCurrent with ⟨hOutcome, hAfter⟩
  refine Prod.ext ?_ hAfter
  rw [hAnswer] at hOutcome
  cases hAction : (action.perform ctx).1 with
  | error e =>
      rw [hAction] at hOutcome
      cases hOutcome
  | ok a' =>
      rw [hAction] at hOutcome
      exact congrArg Except.ok (hReply (Except.ok.inj hOutcome))

/- A question leaves the context as it is. -/
theorem perform_query
    {request : Request R}
    {action : Program n β α}
    {reply : α → Reply}
    {a : α}
    (hPut : put request = reply <$> action)
    (hReply : Function.Injective reply)
    (hCurrent : ctx.currentDevice = .ok device)
    (hAnswer :
      (request.run.perform (ctx.devices.get device)).1 =
        .ok (reply a))
    (hQuery : request.IsQuery) :
    action.perform ctx = (.ok a, ctx) := by
  rw [perform_of_put_ok hPut hReply hCurrent hAnswer,
    ran_eq_self (Prod.ext rfl (hQuery.perform_run _))
      (Tracker.follow_of_isQuery hQuery _)]

/- An operation fails as its request does. -/
theorem perform_of_put_error
    {request : Request R}
    {action : Program n β α}
    {reply : α → Reply}
    {e : BackendError}
    (hPut : put request = reply <$> action)
    (hCurrent : ctx.currentDevice = .ok device)
    (hAnswer :
      (request.run.perform (ctx.devices.get device)).1 =
        .error e) :
    action.perform ctx =
      (.error (.backend e), ctx.ran device [request]) := by
  rcases perform_of_put hPut hCurrent with ⟨hOutcome, hAfter⟩
  refine Prod.ext ?_ hAfter
  rw [hAnswer] at hOutcome
  cases hAction : (action.perform ctx).1 with
  | ok a =>
      rw [hAction] at hOutcome
      cases hOutcome
  | error e' =>
      rw [hAction] at hOutcome
      exact congrArg Except.error (Except.error.inj hOutcome)

/- An operation without an answer succeeds when its request does. -/
theorem perform_unit_of_put_ok
    {request : Request R}
    {action : Program n β Unit}
    {reply : Reply}
    (hPut : put request = (fun _ => Reply.done) <$> action)
    (hCurrent : ctx.currentDevice = .ok device)
    (hAnswer :
      (request.run.perform (ctx.devices.get device)).1 =
        .ok reply) :
    action.perform ctx = (.ok (), ctx.ran device [request]) := by
  rcases perform_of_put hPut hCurrent with ⟨hOutcome, hAfter⟩
  refine Prod.ext ?_ hAfter
  rw [hAnswer] at hOutcome
  cases hAction : (action.perform ctx).1 with
  | error e =>
      rw [hAction] at hOutcome
      cases hOutcome
  | ok _ => rfl

/- An allocation answers with the qubit that is issued. -/
theorem perform_allocateQubit_of_ok
    {q : QubitId}
    (hCurrent : ctx.currentDevice = .ok device)
    (hAnswer :
      ((Request.allocateQubit (R := R)).run.perform
        (ctx.devices.get device)).1 = .ok (.qubit q)) :
    allocateQubit.perform ctx =
      (.ok q, ctx.ran device [.allocateQubit]) :=
  perform_of_put_ok rfl (fun _ _ hEq => Reply.qubit.inj hEq)
    hCurrent hAnswer

end Context

------------------------------------------------------------
-- Histories of runs
------------------------------------------------------------

/- A backend that is recorded gives the same answers. -/
theorem Recorded.runRequests_start
    (requests : List (Request R))
    (b : β) :
    (runRequests (Recorded.start b : Recorded R β) requests).1 =
      (runRequests b requests).1 :=
  (congrArg Prod.fst
    ((Recorded.base_morphism (R := R)).runRequests_eq requests
      (Recorded.start b))).symm

/-
  A routine that comes down to a run of requests over recorded
  backends has exchanged the run.
-/
theorem Routine.history_eq_zip
    {routine : Routine R n α}
    {ctx : Context n β}
    {device : Fin n}
    {requests : List (Request R)}
    (hChanges : ∀ request ∈ requests, ¬ request.IsQuery)
    (hDevices :
      ((routine (Recorded R β)).perform
          (ctx.mapDevices Recorded.start)).2.devices =
        ((ctx.mapDevices Recorded.start).ran device
          requests).devices) :
    routine.history ctx device =
      requests.zip
        (runRequests (ctx.devices.get device) requests).1 := by
  rw [history, hDevices, Context.get_devices_ran,
    Context.get_devices_mapDevices,
    Recorded.runRequests_eq requests hChanges]
  exact List.nil_append _

end QuantumRuntime

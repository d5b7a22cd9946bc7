import QuantumRuntime.Proofs.Simulator.Bookkeeping

/-
  This file proves that a refused request leaves no trace in a
  built-in backend. However many checks an operation makes, and
  however many parts of the backend it changes, all checks come
  before the first change. So a run does the same without the
  requests that it refuses.

  Key definitions include:
    * `acceptedRequests`

  Key theorems include:
    * `FullState.Effect.eq_of_error`
    * `Toffoli.Effect.eq_of_error`
    * `Tracer.Effect.eq_of_error`
    * `Builtin.refused_request_leaves_no_trace`
    * `Builtin.runRequests_acceptedRequests`
-/

namespace QuantumRuntime

variable {R : Type} [Scalar R]

------------------------------------------------------------
-- Single requests
------------------------------------------------------------

/- The simulator of the full state changes only by accepting. -/
theorem FullState.Effect.eq_of_error
    {sim after : FullState R}
    {request : Request R}
    {e : BackendError}
    (hEffect : sim.Effect request (.error e) after) :
    after = sim := by
  cases hEffect with
  | refused => rfl

omit [Scalar R] in
/- The simulator of bits changes only by accepting. -/
theorem Toffoli.Effect.eq_of_error
    {sim after : Toffoli R}
    {request : Request R}
    {e : BackendError}
    (hEffect : sim.Effect request (.error e) after) :
    after = sim := by
  cases hEffect with
  | refused => rfl

omit [Scalar R] in
/- The tracer changes only by accepting. -/
theorem Tracer.Effect.eq_of_error
    {tracer after : Tracer R}
    {request : Request R}
    {e : BackendError}
    (hEffect : tracer.Effect request (.error e) after) :
    after = tracer := by
  cases hEffect with
  | refused => rfl

namespace Builtin

/- What a refused request leaves of a backend is the backend. -/
theorem perform_run_of_error
    {b : Builtin R}
    {request : Request R}
    {e : BackendError}
    (hRefused : (request.run.perform b).1 = .error e) :
    request.run.perform b = (.error e, b) := by
  refine Prod.ext hRefused ?_
  cases b with
  | fullState sim =>
      rw [fullState_morphism.run_eq] at hRefused ⊢
      have hEffect := sim.effect request
      rw [hRefused] at hEffect
      exact congrArg fullState hEffect.eq_of_error
  | toffoli sim =>
      rw [toffoli_morphism.run_eq] at hRefused ⊢
      have hEffect := sim.effect request
      rw [hRefused] at hEffect
      exact congrArg toffoli hEffect.eq_of_error
  | tracer t =>
      rw [tracer_morphism.run_eq] at hRefused ⊢
      have hEffect := t.effect request
      rw [hRefused] at hEffect
      exact congrArg tracer hEffect.eq_of_error
  | stub s =>
      rcases Stub.perform_run request s with ⟨e', hRun⟩
      rw [stub_morphism.run_eq, hRun]

/-
  A request that is refused leaves a built-in backend as it was
  in all its parts: the tables with their free slots and counts,
  the amplitudes, the bits, the layers and metrics, the recorded
  results and the number of draws taken. This holds in every
  state, whatever was asked before.
-/
theorem refused_request_leaves_no_trace
    (b : Builtin R)
    (request : Request R)
    (e : BackendError)
    (hRefused : (request.run.perform b).1 = .error e) :
    (request.run.perform b).2 = b := by
  rw [perform_run_of_error hRefused]

/-
  A controlled gate whose qubits are all live is refused for its
  last control, and no qubit has been moved to another layer.
-/
theorem repeated_control_leaves_no_trace :
    let b : Builtin Float :=
      (runRequests (.tracer .start : Builtin Float)
        [.allocateQubit, .allocateQubit, .apply .h ⟨0⟩]).2
    let request : Request Float :=
      .applyControlled .x [⟨0⟩, ⟨0⟩] ⟨1⟩
    (request.run.perform b).1 =
        .error (.invalidArgument "apply_controlled"
          "control q0 is repeated") ∧
      (request.run.perform b).2 = b := by
  intro b request
  have hRefused :
      (request.run.perform b).1 =
        .error (.invalidArgument "apply_controlled"
          "control q0 is repeated") := by
    rfl
  exact ⟨hRefused,
    refused_request_leaves_no_trace b request _ hRefused⟩

end Builtin

------------------------------------------------------------
-- Runs
------------------------------------------------------------

/- The requests of a run that are accepted in their turn. -/
def acceptedRequests
    {β : Type}
    [Backend R β]
    (b : β) : List (Request R) → List (Request R)
  | [] => []
  | request :: rest =>
      let (answer, b') := request.run.perform b
      match answer with
      | .ok _ => request :: acceptedRequests b' rest
      | .error _ => acceptedRequests b' rest

/- Backends that answer alike accept the same requests. -/
theorem Backend.Morphism.acceptedRequests_eq
    {β γ : Type}
    [Backend R β]
    [Backend R γ]
    {f : β → γ}
    (hMap : Backend.Morphism f)
    (requests : List (Request R))
    (b : β) :
    acceptedRequests (f b) requests = acceptedRequests b requests := by
  induction requests generalizing b with
  | nil => rfl
  | cons request rest ih =>
      rw [acceptedRequests, acceptedRequests, hMap.run_eq]
      dsimp only
      rw [ih]

/-
  A run without its refused requests gives the same answers to
  the others and ends in the same state.
-/
theorem Builtin.runRequests_acceptedRequests
    (b : Builtin R)
    (requests : List (Request R)) :
    runRequests b (acceptedRequests b requests) =
      ((runRequests b requests).1.filter Except.isOk,
        (runRequests b requests).2) := by
  induction requests generalizing b with
  | nil => rfl
  | cons request rest ih =>
      rw [acceptedRequests, runRequests_cons]
      rcases hRun : request.run.perform b with ⟨e | reply, after⟩
      · have hSame :=
          perform_run_of_error (congrArg Prod.fst hRun)
        rw [hRun] at hSame
        cases hSame
        exact ih b
      · dsimp only
        rw [runRequests_cons, hRun, ih after]
        rfl

end QuantumRuntime

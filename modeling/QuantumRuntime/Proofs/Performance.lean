import QuantumRuntime.Backend.Interface

/-
  This file says what performing an action amounts to, one
  equation for each way of building an action, what a request
  answers when its operation does, and how a run of requests
  splits. Later proofs compute with these equations
  and never unfold the monad.

  Key theorems include:
    * `Action.perform_bind`
    * `length_runRequests`
    * `runRequests_append`
-/

namespace QuantumRuntime

------------------------------------------------------------
-- Performing actions
------------------------------------------------------------

namespace Action

variable {σ ε α β : Type}

@[simp] theorem perform_pure
    (a : α)
    (s : σ) :
    (pure a : Action σ ε α).perform s = (.ok a, s) :=
  rfl

@[simp] theorem perform_throw
    (e : ε)
    (s : σ) :
    (throw e : Action σ ε α).perform s = (.error e, s) :=
  rfl

@[simp] theorem perform_get
    (s : σ) :
    (get : Action σ ε σ).perform s = (.ok s, s) :=
  rfl

@[simp] theorem perform_modify
    (f : σ → σ)
    (s : σ) :
    (modify f : Action σ ε PUnit).perform s = (.ok ⟨⟩, f s) :=
  rfl

@[simp] theorem perform_ofExcept
    (outcome : Except ε α)
    (s : σ) :
    (ofExcept outcome : Action σ ε α).perform s = (outcome, s) :=
  rfl

@[simp] theorem perform_query
    (f : σ → Except ε α)
    (s : σ) :
    (query f).perform s = (f s, s) :=
  rfl

/-
  The second action starts from the state that the first one
  left, unless the first one failed.
-/
@[simp] theorem perform_bind
    (action : Action σ ε α)
    (next : α → Action σ ε β)
    (s : σ) :
    (action >>= next).perform s =
      match action.perform s with
      | (.ok a, s') => (next a).perform s'
      | (.error e, s') => (.error e, s') := by
  show (action >>= next) s = _
  unfold perform
  simp only [bind, ExceptT.bind, ExceptT.mk, StateT.bind]
  rcases action s with ⟨_ | _, _⟩ <;> rfl

@[simp] theorem perform_map
    (f : α → β)
    (action : Action σ ε α)
    (s : σ) :
    (f <$> action).perform s =
      ((action.perform s).1.map f, (action.perform s).2) := by
  show (f <$> action) s = _
  unfold perform
  simp only [Functor.map, ExceptT.map, ExceptT.mk, StateT.bind,
    bind]
  rcases action s with ⟨_ | _, _⟩ <;> rfl

@[simp] theorem perform_mapError
    {δ : Type}
    (f : ε → δ)
    (action : Action σ ε α)
    (s : σ) :
    (action.mapError f).perform s =
      ((action.perform s).1.mapError f, (action.perform s).2) :=
  rfl

@[simp] theorem perform_onPart
    {τ : Type}
    (part : σ → τ)
    (setPart : τ → σ → σ)
    (action : Action τ ε α)
    (s : σ) :
    (action.onPart part setPart).perform s =
      ((action.perform (part s)).1,
        setPart (action.perform (part s)).2 s) :=
  rfl

@[simp] theorem perform_attempt
    {δ : Type}
    (action : Action σ ε α)
    (s : σ) :
    (action.attempt : Action σ δ (Except ε α)).perform s =
      (.ok (action.perform s).1, (action.perform s).2) :=
  rfl

/- Actions are equal when they perform alike in every state. -/
theorem eq_of_perform
    {first second : Action σ ε α}
    (hPerform : ∀ s, first.perform s = second.perform s) :
    first = second :=
  funext hPerform

end Action

------------------------------------------------------------
-- Requests
------------------------------------------------------------

namespace Request

variable {R β : Type} [Scalar R] [Backend R β]
variable {b : β}

theorem run_allocateQubit
    {outcome : Except BackendError QubitId × β}
    (hPerform :
      (Backend.allocateQubit (R := R)).perform b = outcome) :
    (allocateQubit : Request R).run.perform b =
      (outcome.1.map Reply.qubit, outcome.2) := by
  rw [run, Action.perform_map, hPerform]

theorem run_releaseQubit
    {q : QubitId}
    {outcome : Except BackendError Unit × β}
    (hPerform :
      (Backend.releaseQubit (R := R) q).perform b = outcome) :
    (releaseQubit q : Request R).run.perform b =
      (outcome.1.map fun _ => Reply.done, outcome.2) := by
  rw [run, Action.perform_map, hPerform]

theorem run_apply
    {g : Gate R}
    {target : QubitId}
    {outcome : Except BackendError Unit × β}
    (hPerform :
      (Backend.apply g target).perform b = outcome) :
    (apply g target).run.perform b =
      (outcome.1.map fun _ => Reply.done, outcome.2) := by
  rw [run, Action.perform_map, hPerform]

theorem run_applyControlled
    {g : Gate R}
    {controls : List QubitId}
    {target : QubitId}
    {outcome : Except BackendError Unit × β}
    (hPerform :
      (Backend.applyControlled g controls target).perform b = outcome) :
    (applyControlled g controls target).run.perform b =
      (outcome.1.map fun _ => Reply.done, outcome.2) := by
  rw [run, Action.perform_map, hPerform]

theorem run_measure
    {bases : List Pauli}
    {targets : List QubitId}
    {outcome : Except BackendError ResultId × β}
    (hPerform :
      (Backend.measure (R := R) bases targets).perform b = outcome) :
    (measure bases targets : Request R).run.perform b =
      (outcome.1.map Reply.result, outcome.2) := by
  rw [run, Action.perform_map, hPerform]

theorem run_releaseResult
    {r : ResultId}
    {outcome : Except BackendError Unit × β}
    (hPerform :
      (Backend.releaseResult (R := R) r).perform b = outcome) :
    (releaseResult r : Request R).run.perform b =
      (outcome.1.map fun _ => Reply.done, outcome.2) := by
  rw [run, Action.perform_map, hPerform]

theorem run_areEqualResults
    {r₁ r₂ : ResultId}
    {answer : Except BackendError Bool}
    (hAnswer : Backend.areEqualResults b r₁ r₂ = answer) :
    (areEqualResults r₁ r₂ : Request R).run.perform b =
      (answer.map Reply.bit, b) := by
  rw [run, Action.perform_map, Action.perform_query, hAnswer]

theorem run_resultValue
    {r : ResultId}
    {answer : Except BackendError Bool}
    (hAnswer : Backend.resultValue b r = answer) :
    (resultValue r : Request R).run.perform b =
      (answer.map Reply.bit, b) := by
  rw [run, Action.perform_map, Action.perform_query, hAnswer]

end Request

------------------------------------------------------------
-- Runs of requests
------------------------------------------------------------

section

variable {R β : Type} [Scalar R] [Backend R β]

@[simp] theorem runRequests_nil
    (b : β) :
    runRequests b [] = ([], b) :=
  rfl

@[simp] theorem runRequests_cons
    (b : β)
    (request : Request R)
    (rest : List (Request R)) :
    runRequests b (request :: rest) =
      ((request.run.perform b).1 ::
          (runRequests (request.run.perform b).2 rest).1,
        (runRequests (request.run.perform b).2 rest).2) :=
  rfl

/- Every request is answered. -/
@[simp] theorem length_runRequests
    (b : β)
    (requests : List (Request R)) :
    (runRequests b requests).1.length = requests.length := by
  induction requests generalizing b with
  | nil => rfl
  | cons request rest ih => simp [ih]

/- A run goes on where the run before it stopped. -/
theorem runRequests_append
    (b : β)
    (first second : List (Request R)) :
    runRequests b (first ++ second) =
      ((runRequests b first).1 ++
          (runRequests (runRequests b first).2 second).1,
        (runRequests (runRequests b first).2 second).2) := by
  induction first generalizing b with
  | nil => rfl
  | cons request rest ih => simp [ih]

end

end QuantumRuntime

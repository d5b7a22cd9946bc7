import QuantumRuntime.Proofs.Performance

/-
  This file describes what passes between programs and backends
  as exchanges: requests with the answers to them. A recorded
  backend logs every exchange that may change it and answers
  like the backend behind it.

  Key definitions include:
    * `Exchange`
    * `Request.IsQuery`
    * `Request.KeepsHandles`
    * `Exchange.Creates`
    * `Exchange.Ends`
    * `Handle.releaseRequest`
    * `Backend.Morphism`
    * `Recorded`

  Key theorems include:
    * `runRequests_induction`
    * `Backend.Morphism.runRequests_eq`
    * `Recorded.perform_run`
    * `Recorded.runRequests_eq`
    * `Recorded.base_morphism`
-/

namespace QuantumRuntime

------------------------------------------------------------
-- Exchanges
------------------------------------------------------------

/- A request together with the answer to it. -/
abbrev Exchange (R : Type) :=
  Request R × Except BackendError Reply

namespace Request

variable {R : Type}

/- A request that only reads results. -/
def IsQuery : Request R → Prop
  | areEqualResults _ _ => True
  | resultValue _ => True
  | _ => False

instance
    (request : Request R) :
    Decidable request.IsQuery := by
  cases request <;> unfold IsQuery <;> infer_instance

/- A request that neither creates nor ends a handle. -/
def KeepsHandles : Request R → Prop
  | apply _ _ => True
  | applyControlled _ _ _ => True
  | areEqualResults _ _ => True
  | resultValue _ => True
  | _ => False

/- A query leaves the backend as it is. -/
theorem IsQuery.perform_run
    {β : Type}
    [Scalar R]
    [Backend R β]
    {request : Request R}
    (hQuery : request.IsQuery)
    (b : β) :
    (request.run.perform b).2 = b := by
  cases request with
  | areEqualResults r₁ r₂ =>
      rw [run, Action.perform_map, Action.perform_query]
  | resultValue r =>
      rw [run, Action.perform_map, Action.perform_query]
  | _ => exact hQuery.elim

end Request

------------------------------------------------------------
-- Handles in exchanges
------------------------------------------------------------

namespace Exchange

variable {R : Type}

/- An accepted request that was answered with a new handle. -/
def Creates
    (event : Exchange R) : Handle → Prop
  | .qubit q =>
      event = (.allocateQubit, .ok (.qubit q))
  | .result r =>
      ∃ bases targets,
        event = (.measure bases targets, .ok (.result r))

/- An accepted request to release a handle. -/
def Ends
    (event : Exchange R) : Handle → Prop
  | .qubit q => ∃ reply, event = (.releaseQubit q, .ok reply)
  | .result r => ∃ reply, event = (.releaseResult r, .ok reply)

@[simp] theorem not_creates_error
    (request : Request R)
    (e : BackendError)
    (handle : Handle) :
    ¬ Creates (request, .error e) handle := by
  cases handle <;> simp [Creates]

@[simp] theorem not_ends_error
    (request : Request R)
    (e : BackendError)
    (handle : Handle) :
    ¬ Ends (request, .error e) handle := by
  cases handle <;> simp [Ends]

theorem not_creates_of_keepsHandles
    {request : Request R}
    (hKeeps : request.KeepsHandles)
    (answer : Except BackendError Reply)
    (handle : Handle) :
    ¬ Creates (request, answer) handle := by
  cases request <;>
    first
    | exact hKeeps.elim
    | cases handle <;> simp [Creates]

theorem not_ends_of_keepsHandles
    {request : Request R}
    (hKeeps : request.KeepsHandles)
    (answer : Except BackendError Reply)
    (handle : Handle) :
    ¬ Ends (request, answer) handle := by
  cases request <;>
    first
    | exact hKeeps.elim
    | cases handle <;> simp [Ends]

@[simp] theorem creates_allocated_iff
    (q : QubitId)
    (handle : Handle) :
    Creates (R := R) (.allocateQubit, .ok (.qubit q)) handle ↔
      handle = .qubit q := by
  cases handle <;> simp [Creates, eq_comm]

@[simp] theorem creates_measured_iff
    (bases : List Pauli)
    (targets : List QubitId)
    (r : ResultId)
    (handle : Handle) :
    Creates (R := R) (.measure bases targets, .ok (.result r))
        handle ↔
      handle = .result r := by
  cases handle <;> simp [Creates, eq_comm]

@[simp] theorem not_creates_releaseQubit
    (q : QubitId)
    (answer : Except BackendError Reply)
    (handle : Handle) :
    ¬ Creates (R := R) (.releaseQubit q, answer) handle := by
  cases handle <;> simp [Creates]

@[simp] theorem not_creates_releaseResult
    (r : ResultId)
    (answer : Except BackendError Reply)
    (handle : Handle) :
    ¬ Creates (R := R) (.releaseResult r, answer) handle := by
  cases handle <;> simp [Creates]

@[simp] theorem ends_releasedQubit_iff
    (q : QubitId)
    (reply : Reply)
    (handle : Handle) :
    Ends (R := R) (.releaseQubit q, .ok reply) handle ↔
      handle = .qubit q := by
  cases handle <;> simp [Ends, eq_comm]

@[simp] theorem ends_releasedResult_iff
    (r : ResultId)
    (reply : Reply)
    (handle : Handle) :
    Ends (R := R) (.releaseResult r, .ok reply) handle ↔
      handle = .result r := by
  cases handle <;> simp [Ends, eq_comm]

@[simp] theorem not_ends_allocateQubit
    (answer : Except BackendError Reply)
    (handle : Handle) :
    ¬ Ends (R := R) (.allocateQubit, answer) handle := by
  cases handle <;> simp [Ends]

@[simp] theorem not_ends_measure
    (bases : List Pauli)
    (targets : List QubitId)
    (answer : Except BackendError Reply)
    (handle : Handle) :
    ¬ Ends (R := R) (.measure bases targets, answer) handle := by
  cases handle <;> simp [Ends]

end Exchange

namespace Handle

/- The request that ends a handle. -/
def releaseRequest
    {R : Type} : Handle → Request R
  | qubit q => .releaseQubit q
  | result r => .releaseResult r

/- The handles that need no release. -/
def IsConstant : Handle → Prop
  | qubit _ => False
  | result r => r.IsConstant

end Handle

namespace Exchange

variable {R : Type}

@[simp] theorem ends_releaseRequest_iff
    (handle other : Handle)
    (reply : Reply) :
    Ends (R := R) (handle.releaseRequest, .ok reply) other ↔
      other = handle := by
  cases handle <;> simp [Handle.releaseRequest]

@[simp] theorem not_creates_releaseRequest
    (handle other : Handle)
    (answer : Except BackendError Reply) :
    ¬ Creates (R := R) (handle.releaseRequest, answer) other := by
  cases handle <;> simp [Handle.releaseRequest]

end Exchange

------------------------------------------------------------
-- Histories
------------------------------------------------------------

/-
  What a state has in common with its history, and every request
  keeps, every run keeps.
-/
theorem runRequests_induction
    {R β : Type}
    [Scalar R]
    [Backend R β]
    {P : List (Exchange R) → β → Prop}
    (hStep :
      ∀ (history : List (Exchange R)) (b : β) (request : Request R),
        P history b →
          P (history ++ [(request, (request.run.perform b).1)])
            (request.run.perform b).2)
    {history : List (Exchange R)}
    {b : β}
    (hStart : P history b)
    (requests : List (Request R)) :
    P (history ++ requests.zip (runRequests b requests).1)
      (runRequests b requests).2 := by
  induction requests generalizing b history with
  | nil => simpa using hStart
  | cons request rest ih =>
      have hNext := ih (hStep history b request hStart)
      rwa [List.append_assoc, List.singleton_append] at hNext

------------------------------------------------------------
-- Backends that answer alike
------------------------------------------------------------

namespace Backend

variable {R β γ : Type} [Scalar R] [Backend R β] [Backend R γ]

/- A map between backends under which they answer alike. -/
structure Morphism
    (f : β → γ) : Prop where
  name_eq :
    ∀ b, name (f b) = name b
  zeroResult_eq :
    ∀ b, zeroResult (f b) = zeroResult b
  oneResult_eq :
    ∀ b, oneResult (f b) = oneResult b
  run_eq :
    ∀ (request : Request R) (b : β),
      request.run.perform (f b) =
        ((request.run.perform b).1, f (request.run.perform b).2)

/- Every backend answers like itself. -/
theorem morphism_id :
    Morphism (id : β → β) :=
  ⟨fun _ => rfl, fun _ => rfl, fun _ => rfl, fun _ _ => rfl⟩

/- Backends that answer alike do so along runs. -/
theorem Morphism.runRequests_eq
    {f : β → γ}
    (hMap : Morphism f)
    (requests : List (Request R))
    (b : β) :
    runRequests (f b) requests =
      ((runRequests b requests).1, f (runRequests b requests).2) := by
  induction requests generalizing b with
  | nil => rfl
  | cons request rest ih =>
      simp only [runRequests_cons, hMap.run_eq, ih]

end Backend

------------------------------------------------------------
-- Recorded backends
------------------------------------------------------------

/- A backend together with what has been asked of it so far. -/
structure Recorded (R β : Type) where
  base : β
  log : List (Exchange R)

namespace Recorded

variable {R β : Type}

/- A backend of which nothing has been logged. -/
def start
    (b : β) : Recorded R β :=
  { base := b
    log := [] }

/- Perform an action and log it as a request with its answer. -/
def logged
    {α : Type}
    (request : Request R)
    (reply : α → Reply)
    (action : Action β BackendError α) :
    Action (Recorded R β) BackendError α :=
  Action.ofOutcome fun b =>
    let (outcome, base) := action.perform b.base
    (outcome,
      { base := base
        log := b.log ++ [(request, outcome.map reply)] })

variable [Scalar R] [Backend R β]

instance : Backend R (Recorded R β) where
  name b := Backend.name b.base
  allocateQubit :=
    logged .allocateQubit Reply.qubit Backend.allocateQubit
  releaseQubit q :=
    logged (.releaseQubit q) (fun _ => .done) (Backend.releaseQubit q)
  apply g target :=
    logged (.apply g target) (fun _ => .done) (Backend.apply g target)
  applyControlled g controls target :=
    logged (.applyControlled g controls target) (fun _ => .done)
      (Backend.applyControlled g controls target)
  measure bases targets :=
    logged (.measure bases targets) Reply.result
      (Backend.measure bases targets)
  areEqualResults b := Backend.areEqualResults b.base
  releaseResult r :=
    logged (.releaseResult r) (fun _ => .done)
      (Backend.releaseResult r)
  zeroResult b := Backend.zeroResult b.base
  oneResult b := Backend.oneResult b.base
  resultValue b := Backend.resultValue b.base

/-
  A recorded backend answers like the backend behind it, and
  logs all but queries.
-/
theorem perform_run
    (request : Request R)
    (b : Recorded R β) :
    request.run.perform b =
      ((request.run.perform b.base).1,
        { base := (request.run.perform b.base).2
          log :=
            if request.IsQuery then
              b.log
            else
              b.log ++
                [(request, (request.run.perform b.base).1)] }) := by
  cases request <;>
    simp only [Request.run, Action.perform_map] <;>
    rfl

/- Recording a backend does not change its answers. -/
theorem base_morphism :
    Backend.Morphism (base : Recorded R β → β) :=
  ⟨fun _ => rfl, fun _ => rfl, fun _ => rfl,
    fun request b => by rw [perform_run]⟩

/- A run without queries is logged in full. -/
theorem runRequests_eq
    (requests : List (Request R))
    (hChanges : ∀ request ∈ requests, ¬ request.IsQuery)
    (b : Recorded R β) :
    runRequests b requests =
      ((runRequests b.base requests).1,
        { base := (runRequests b.base requests).2
          log :=
            b.log ++
              requests.zip (runRequests b.base requests).1 }) := by
  induction requests generalizing b with
  | nil => simp
  | cons request rest ih =>
      rcases List.forall_mem_cons.mp hChanges with
        ⟨hRequest, hRest⟩
      simp only [runRequests_cons, perform_run, if_neg hRequest,
        ih hRest, List.zip_cons_cons, List.append_assoc,
        List.singleton_append]

end Recorded

end QuantumRuntime

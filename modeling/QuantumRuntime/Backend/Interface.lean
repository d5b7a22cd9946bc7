import QuantumRuntime.Action
import QuantumRuntime.Failure.Backend
import QuantumRuntime.Gate
import QuantumRuntime.Pauli
import QuantumRuntime.Text.Quoted

/-
  This file defines what a program can ask of a backend, and
  requests as data. A backend that leaves an operation out
  refuses it as unsupported.

  Key definitions include:
    * `Backend`
    * `Request`
    * `Reply`
    * `Request.run`
    * `runRequests`
-/

namespace QuantumRuntime

------------------------------------------------------------
-- Backends
------------------------------------------------------------

/- Refuse an operation that the backend does not offer. -/
def refuse
    {β α : Type}
    (name : β → String)
    (operation : String) : Action β BackendError α :=
  Action.query fun b => .error (.unsupported (name b) operation)

/-
  The operations of a backend with states `β` whose gates turn
  by angles of type `R`. Comparing results and reading one
  cannot change the state.
-/
class Backend (R : outParam Type) [Scalar R] (β : Type) where
  name : β → String
  allocateQubit : Action β BackendError QubitId :=
    refuse name "allocate_qubit"
  releaseQubit : QubitId → Action β BackendError Unit :=
    fun _ => refuse name "release_qubit"
  apply : Gate R → QubitId → Action β BackendError Unit :=
    fun g _ => refuse name ("apply(" ++ g.text ++ ")")
  applyControlled :
      Gate R → List QubitId → QubitId → Action β BackendError Unit :=
    fun g _ _ => refuse name ("apply_controlled(" ++ g.text ++ ")")
  measure : List Pauli → List QubitId → Action β BackendError ResultId :=
    fun _ _ => refuse name "measure"
  areEqualResults : β → ResultId → ResultId → Except BackendError Bool :=
    fun b _ _ => .error (.unsupported (name b) "are_equal_results")
  releaseResult : ResultId → Action β BackendError Unit :=
    fun _ => refuse name "release_result"
  zeroResult : β → ResultId :=
    fun _ => ResultId.zero
  oneResult : β → ResultId :=
    fun _ => ResultId.one
  resultValue : β → ResultId → Except BackendError Bool :=
    fun b r => areEqualResults b r (oneResult b)

/- The text of a backend, which shows its name only. -/
def backendText
    {R β : Type}
    [Scalar R]
    [Backend R β]
    (b : β) : String :=
  "Backend \x7b name: " ++ quoted (Backend.name b) ++ " \x7d"

------------------------------------------------------------
-- Requests
------------------------------------------------------------

/- A request to a backend. -/
inductive Request (R : Type) where
  | allocateQubit
  | releaseQubit (q : QubitId)
  | apply (g : Gate R) (target : QubitId)
  | applyControlled (g : Gate R) (controls : List QubitId) (target : QubitId)
  | measure (bases : List Pauli) (targets : List QubitId)
  | areEqualResults (r₁ r₂ : ResultId)
  | releaseResult (r : ResultId)
  | resultValue (r : ResultId)
deriving DecidableEq, Repr

/- What a backend answers when it accepts a request. -/
inductive Reply where
  | done
  | qubit (q : QubitId)
  | result (r : ResultId)
  | bit (value : Bool)
deriving DecidableEq, Repr

namespace Request

variable {R β : Type} [Scalar R] [Backend R β]

/- Put a request to a backend. -/
def run : Request R → Action β BackendError Reply
  | allocateQubit =>
      Reply.qubit <$> Backend.allocateQubit
  | releaseQubit q =>
      (fun _ => Reply.done) <$> Backend.releaseQubit q
  | apply g target =>
      (fun _ => Reply.done) <$> Backend.apply g target
  | applyControlled g controls target =>
      (fun _ => Reply.done) <$> Backend.applyControlled g controls target
  | measure bases targets =>
      Reply.result <$> Backend.measure bases targets
  | areEqualResults r₁ r₂ =>
      Reply.bit <$> Action.query fun b => Backend.areEqualResults b r₁ r₂
  | releaseResult r =>
      (fun _ => Reply.done) <$> Backend.releaseResult r
  | resultValue r =>
      Reply.bit <$> Action.query fun b => Backend.resultValue b r

end Request

/-
  Put requests to a backend one after the other. A refused
  request does not stop the ones after it.
-/
def runRequests
    {R β : Type}
    [Scalar R]
    [Backend R β]
    (b : β) : List (Request R) → List (Except BackendError Reply) × β
  | [] => ([], b)
  | request :: rest =>
      let (answer, b') := request.run.perform b
      let (answers, b'') := runRequests b' rest
      (answer :: answers, b'')

end QuantumRuntime

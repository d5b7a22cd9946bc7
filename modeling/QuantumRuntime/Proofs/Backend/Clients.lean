import QuantumRuntime.Proofs.Backend.Census
import QuantumRuntime.Proofs.HandleTable.Aligned

/-
  This file defines clients: programs that name each qubit by
  the allocation that produced it, and that choose each request
  by the answers so far. A client cannot tell raw qubits apart.
  Two backends are alike under names when their tables are
  aligned and they are related otherwise. Whatever they are
  asked under the same names keeps them alike, provided that
  they answer alike.

  Key definitions include:
    * `Client`
    * `Named`
    * `Named.ask`
    * `Client.trace`
    * `Client.RespectsLifetimes`
    * `Named.Alike`
    * `Named.AskedAlike`

  Key theorems include:
    * `Named.Alike.refused`
    * `Named.Alike.accepted`
    * `Named.Alike.queried`
    * `Named.Alike.allocated`
    * `Named.alike_start`
    * `Client.forall₂_trace`
-/

namespace QuantumRuntime

variable {R : Type}

------------------------------------------------------------
-- Names in requests
------------------------------------------------------------

namespace Request

/- The qubits that a request names. -/
def qubits : Request R → List QubitId
  | releaseQubit q => [q]
  | apply _ target => [target]
  | applyControlled _ controls target => target :: controls
  | measure _ targets => targets
  | _ => []

/- The same request for other qubits. -/
def rename
    (f : QubitId → QubitId) : Request R → Request R
  | releaseQubit q => releaseQubit (f q)
  | apply g target => apply g (f target)
  | applyControlled g controls target =>
      applyControlled g (controls.map f) (f target)
  | measure bases targets => measure bases (targets.map f)
  | request => request

end Request

/-
  The error as far as a client can tell that knows neither raw
  qubits nor the name of the backend. The wording of an invalid
  argument may show raw qubits.
-/
def BackendError.blurred : BackendError → BackendError
  | invalidArgument operation _ => invalidArgument operation ""
  | unsupported _ operation => unsupported "" operation
  | e => e

------------------------------------------------------------
-- Clients
------------------------------------------------------------

/-
  A program that puts a request and goes on by the answer. The
  qubit with raw value `n` in a request or an answer is the one
  that the `n`-th allocation produced.
-/
inductive Client (R : Type) where
  | done
  | ask
      (request : Request R)
      (next : Except BackendError Reply → Client R)

/-
  A backend with the qubits that its allocations have produced,
  in their order, and a census of their names.
-/
structure Named (β : Type) where
  backend : β
  handles : List QubitId
  census : Census

namespace Named

variable {β : Type}

/- A backend that nothing has been asked of. -/
def start
    (b : β) : Named β :=
  { backend := b
    handles := []
    census := .start }

/- The qubit behind a name. -/
def handle
    (named : Named β)
    (name : QubitId) : QubitId :=
  named.handles.getD name.raw default

/- What a client sees of an answer. A new qubit gets the next name. -/
def seen
    (named : Named β) :
    Except BackendError Reply → Except BackendError Reply
  | .ok (.qubit _) => .ok (.qubit ⟨named.handles.length⟩)
  | .ok reply => .ok reply
  | .error e => .error e.blurred

/- The qubit that an answer issues, if it does. -/
def issuedBy : Except BackendError Reply → List QubitId
  | .ok (.qubit q) => [q]
  | _ => []

/- The backend after it has been asked and has answered. -/
def answered
    (request : Request R)
    (answer : Except BackendError Reply)
    (after : β)
    (named : Named β) : Named β :=
  { backend := after
    handles := named.handles ++ issuedBy answer
    census := named.census.count (request, named.seen answer) }

/- Put a request that names qubits by their allocations. -/
def ask
    [Scalar R]
    [Backend R β]
    (request : Request R)
    (named : Named β) : Except BackendError Reply × Named β :=
  let (answer, after) :=
    (request.rename named.handle).run.perform named.backend
  (named.seen answer, named.answered request answer after)

theorem ask_eq
    [Scalar R]
    [Backend R β]
    {request : Request R}
    {named : Named β}
    {answer : Except BackendError Reply}
    {after : β}
    (hRun :
      (request.rename named.handle).run.perform named.backend =
        (answer, after)) :
    named.ask request =
      (named.seen answer, named.answered request answer after) := by
  rw [ask, hRun]

end Named

namespace Client

/- The client that puts some requests whatever the answers are. -/
def ofRequests : List (Request R) → Client R
  | [] => done
  | request :: rest => ask request fun _ => ofRequests rest

variable {β : Type} [Scalar R] [Backend R β]

/- The answers that a client sees, with the states after them. -/
def trace :
    Client R → Named β → List (Except BackendError Reply × Named β)
  | done, _ => []
  | ask request next, named =>
      let step := named.ask request
      step :: (next step.1).trace step.2

/- A client names only qubits that are live when it does. -/
def RespectsLifetimes : Client R → Named β → Prop
  | done, _ => True
  | ask request next, named =>
      (∀ q ∈ request.qubits, q ∈ named.census.live) ∧
        (next (named.ask request).1).RespectsLifetimes
          (named.ask request).2

end Client

------------------------------------------------------------
-- Backends alike
------------------------------------------------------------

namespace Named

variable {β V : Type}

/-
  Two backends with the same names in use, whose tables of
  qubits are aligned under them and which are otherwise related.
-/
structure Alike
    (qubits : β → HandleTable QubitId V)
    (Same : β → β → Prop)
    (named named' : Named β) : Prop where
  census_eq : named'.census = named.census
  length_eq : named'.handles.length = named.handles.length
  named_lt :
    ∀ q ∈ named.census.live, q.raw < named.handles.length
  aligned :
    HandleTable.Aligned named.census.live named.handle
      named'.handle (qubits named.backend) (qubits named'.backend)
  same : Same named.backend named'.backend

/- Both see the same answer to a request and stay alike. -/
def AskedAlike
    [Scalar R]
    [Backend R β]
    (qubits : β → HandleTable QubitId V)
    (Same : β → β → Prop)
    (request : Request R)
    (named named' : Named β) : Prop :=
  (named'.ask request).1 = (named.ask request).1 ∧
    Alike qubits Same (named.ask request).2 (named'.ask request).2

/- An answer does not change the qubits that have names. -/
theorem handle_answered
    {named : Named β}
    {q : QubitId}
    (hName : q.raw < named.handles.length)
    (request : Request R)
    (answer : Except BackendError Reply)
    (after : β) :
    (named.answered request answer after).handle q =
      named.handle q := by
  simp [handle, answered, List.getD, List.getElem?_append_left hName]

/- The next name is that of the qubit that is issued. -/
theorem handle_answered_next
    (named : Named β)
    (request : Request R)
    (q : QubitId)
    (after : β) :
    (named.answered request (.ok (.qubit q)) after).handle
        ⟨named.handles.length⟩ = q := by
  simp [handle, answered, issuedBy]

/- An answer that is no qubit is seen as it is. -/
theorem answered_of_accepted
    {reply : Reply}
    (hReply : ∀ q, reply ≠ .qubit q)
    (named : Named β)
    (request : Request R)
    (after : β) :
    named.seen (.ok reply) = .ok reply ∧
      named.answered request (.ok reply) after =
        { named with
          backend := after
          census := named.census.count (request, .ok reply) } := by
  cases reply with
  | qubit q => exact absurd rfl (hReply q)
  | _ => simp [answered, seen, issuedBy]

/- A refusal that changes nothing leaves the names as they are. -/
theorem answered_of_refused
    (named : Named β)
    (request : Request R)
    (e : BackendError) :
    named.answered request (.error e) named.backend = named := by
  simp [answered, seen, issuedBy]

namespace Alike

variable [Scalar R] [Backend R β]
variable {qubits : β → HandleTable QubitId V}
variable {Same : β → β → Prop}
variable {named named' : Named β}
variable {request : Request R}
variable {after after' : β}

/- Both refuse for the same reason and stay as they were. -/
theorem refused
    (hAlike : Alike qubits Same named named')
    {e e' : BackendError}
    (hBlurred : e'.blurred = e.blurred)
    (hRun :
      (request.rename named.handle).run.perform named.backend =
        (.error e, named.backend))
    (hRun' :
      (request.rename named'.handle).run.perform named'.backend =
        (.error e', named'.backend)) :
    AskedAlike qubits Same request named named' := by
  unfold AskedAlike
  rw [ask_eq hRun, ask_eq hRun', answered_of_refused,
    answered_of_refused]
  exact ⟨congrArg Except.error hBlurred, hAlike⟩

/- Both accept, and the names that stay in use stay aligned. -/
theorem accepted
    (hAlike : Alike qubits Same named named')
    {reply : Reply}
    (hReply : ∀ q, reply ≠ .qubit q)
    (hRun :
      (request.rename named.handle).run.perform named.backend =
        (.ok reply, after))
    (hRun' :
      (request.rename named'.handle).run.perform named'.backend =
        (.ok reply, after'))
    (hAligned :
      HandleTable.Aligned
        (named.census.count (request, .ok reply)).live
        named.handle named'.handle (qubits after) (qubits after'))
    (hSame : Same after after') :
    AskedAlike qubits Same request named named' := by
  rcases answered_of_accepted hReply named request after with
    ⟨hSeen, hAnswered⟩
  rcases answered_of_accepted hReply named' request after' with
    ⟨hSeen', hAnswered'⟩
  unfold AskedAlike
  rw [ask_eq hRun, ask_eq hRun', hSeen, hSeen', hAnswered,
    hAnswered']
  refine ⟨rfl, ?_, hAlike.length_eq, ?_, hAligned, hSame⟩
  · simp only [hAlike.census_eq]
  · intro q hMem
    exact hAlike.named_lt q (Census.mem_live_of_count hReply hMem)

/- Both do what is asked, and hand out nothing. -/
theorem done
    (hAlike : Alike qubits Same named named')
    (hRun :
      (request.rename named.handle).run.perform named.backend =
        (.ok .done, after))
    (hRun' :
      (request.rename named'.handle).run.perform named'.backend =
        (.ok .done, after'))
    (hAligned :
      HandleTable.Aligned
        (named.census.count (request, .ok .done)).live
        named.handle named'.handle (qubits after) (qubits after'))
    (hSame : Same after after') :
    AskedAlike qubits Same request named named' :=
  hAlike.accepted (by simp) hRun hRun' hAligned hSame

/- Both hand out the same result. -/
theorem measured
    (hAlike : Alike qubits Same named named')
    (r : ResultId)
    (hRun :
      (request.rename named.handle).run.perform named.backend =
        (.ok (.result r), after))
    (hRun' :
      (request.rename named'.handle).run.perform named'.backend =
        (.ok (.result r), after'))
    (hAligned :
      HandleTable.Aligned
        (named.census.count (request, .ok (.result r))).live
        named.handle named'.handle (qubits after) (qubits after'))
    (hSame : Same after after') :
    AskedAlike qubits Same request named named' :=
  hAlike.accepted (by simp) hRun hRun' hAligned hSame

/- Both answer a query with the same bit, or refuse it alike. -/
theorem queried
    (hAlike : Alike qubits Same named named')
    (hKeeps : request.KeepsHandles)
    (answer : Except BackendError Bool)
    (hRun :
      (request.rename named.handle).run.perform named.backend =
        (answer.map Reply.bit, named.backend))
    (hRun' :
      (request.rename named'.handle).run.perform named'.backend =
        (answer.map Reply.bit, named'.backend)) :
    AskedAlike qubits Same request named named' := by
  cases answer with
  | error e => exact hAlike.refused rfl hRun hRun'
  | ok value =>
      refine hAlike.accepted (by simp) hRun hRun' ?_ hAlike.same
      rw [Census.count_of_keepsHandles _ hKeeps]
      exact hAlike.aligned

/- Both issue a qubit, with one value behind it. -/
theorem allocated
    (hAlike : Alike qubits Same named named')
    (value : V)
    (hRun :
      (Request.allocateQubit : Request R).run.perform
          named.backend =
        (.ok (.qubit ((qubits named.backend).insert value).1),
          after))
    (hRun' :
      (Request.allocateQubit : Request R).run.perform
          named'.backend =
        (.ok (.qubit ((qubits named'.backend).insert value).1),
          after'))
    (hQubits :
      qubits after =
        ((qubits named.backend).insert value : QubitId × _).2)
    (hQubits' :
      qubits after' =
        ((qubits named'.backend).insert value : QubitId × _).2)
    (hSame : Same after after') :
    AskedAlike qubits Same (.allocateQubit : Request R)
      named named' := by
  have hLength := hAlike.length_eq
  let asked : Request R := .allocateQubit
  have hAsk : named.ask asked = _ := ask_eq hRun
  have hAsk' : named'.ask asked = _ := ask_eq hRun'
  have hNew := named.handle_answered_next
    (.allocateQubit : Request R)
    ((qubits named.backend).insert value).1 after
  have hNew' := named'.handle_answered_next
    (.allocateQubit : Request R)
    ((qubits named'.backend).insert value).1 after'
  unfold AskedAlike
  rw [hAsk, hAsk']
  constructor
  · simp only [seen, hLength]
  constructor
  case right.census_eq =>
    simp only [answered, seen, hLength, hAlike.census_eq]
  case right.length_eq =>
    simp only [answered, issuedBy, List.length_append, hLength,
      List.length_singleton]
  case right.named_lt =>
    intro q hMem
    simp only [answered, issuedBy, List.length_append,
      List.length_singleton]
    rcases List.mem_cons.mp hMem with rfl | hOld
    · exact Nat.lt_succ_self _
    · exact Nat.lt_succ_of_lt (hAlike.named_lt q hOld)
  case right.aligned =>
    simp only [answered] at hQubits hQubits' ⊢
    rw [hQubits, hQubits']
    refine hAlike.aligned.insert value hNew ?_ ?_ ?_
    · rw [← hLength]
      exact hNew'
    · intro q hName
      exact handle_answered (hAlike.named_lt q hName) _ _ _
    · intro q hName
      refine handle_answered ?_ _ _ _
      rw [hLength]
      exact hAlike.named_lt q hName
  case right.same => exact hSame

end Alike

/- Fresh simulators that recycle or not are alike. -/
theorem alike_start
    {qubits : β → HandleTable QubitId V}
    {Same : β → β → Prop}
    {b b' : β}
    (hMade : ∃ recycle, qubits b = .make recycle)
    (hMade' : ∃ recycle, qubits b' = .make recycle)
    (hSame : Same b b') :
    Alike qubits Same (start b) (start b') := by
  rcases hMade with ⟨recycle, hQubits⟩
  rcases hMade' with ⟨recycle', hQubits'⟩
  refine ⟨rfl, rfl, by simp [start, Census.start], ?_, hSame⟩
  simp only [start, hQubits, hQubits']
  exact HandleTable.Aligned.make recycle recycle' _ _

end Named

------------------------------------------------------------
-- Clients of backends alike
------------------------------------------------------------

namespace Client

variable {β V : Type} [Scalar R] [Backend R β]
variable {qubits : β → HandleTable QubitId V}
variable {Same : β → β → Prop}

/-
  If requests that name live qubits keep backends alike, then a
  client that respects lifetimes sees the same answers from
  both, and they are alike after each.
-/
theorem forall₂_trace
    (hStep :
      ∀ (request : Request R) (named named' : Named β),
        Named.Alike qubits Same named named' →
        (∀ q ∈ request.qubits, q ∈ named.census.live) →
          Named.AskedAlike qubits Same request named named')
    (client : Client R)
    {named named' : Named β}
    (hAlike : Named.Alike qubits Same named named')
    (hRespects : client.RespectsLifetimes named) :
    List.Forall₂
      (fun step step' =>
        step'.1 = step.1 ∧
          Named.Alike qubits Same step.2 step'.2)
      (client.trace named) (client.trace named') := by
  induction client generalizing named named' with
  | done => exact .nil
  | ask request next ih =>
      rcases hRespects with ⟨hLive, hRest⟩
      rcases hStep request named named' hAlike hLive with
        ⟨hAnswer, hAfter⟩
      refine .cons ⟨hAnswer, hAfter⟩ ?_
      rw [hAnswer]
      exact ih _ hAfter hRest

end Client

end QuantumRuntime

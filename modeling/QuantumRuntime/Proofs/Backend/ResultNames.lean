import QuantumRuntime.Proofs.Backend.Clients

/-
  This file lets clients name results by the measurements that
  produced them: the constants stand for themselves, and the
  names after them are those of the accepted measurements in
  their order. A client that names results in this way cannot
  tell their raw values apart.

  Key definitions include:
    * `Measured`
    * `Measured.result`
    * `Measured.ask`
    * `Client.resultTrace`
    * `Client.RespectsResults`

  Key theorems include:
    * `Measured.result_recorded`
    * `Measured.result_recorded_next`
    * `Client.forall₂_resultTrace`
-/

namespace QuantumRuntime

variable {R : Type}

------------------------------------------------------------
-- Results in requests
------------------------------------------------------------

namespace Request

/- The results that a request names. -/
def results : Request R → List ResultId
  | areEqualResults r₁ r₂ => [r₁, r₂]
  | releaseResult r => [r]
  | resultValue r => [r]
  | _ => []

/- The same request for other results. -/
def renameResults
    (f : ResultId → ResultId) : Request R → Request R
  | areEqualResults r₁ r₂ => areEqualResults (f r₁) (f r₂)
  | releaseResult r => releaseResult (f r)
  | resultValue r => resultValue (f r)
  | request => request

/- A request that neither names nor produces a result. -/
def ActsOnQubits : Request R → Prop
  | allocateQubit => True
  | releaseQubit _ => True
  | apply _ _ => True
  | applyControlled _ _ _ => True
  | _ => False

theorem ActsOnQubits.renameResults_eq
    {request : Request R}
    (hActs : request.ActsOnQubits)
    (f : ResultId → ResultId) :
    request.renameResults f = request := by
  cases request <;> first | rfl | exact hActs.elim

end Request

------------------------------------------------------------
-- Results under names
------------------------------------------------------------

/-
  A backend with the results of its accepted measurements, in
  their order, and the names of those that were not released.
-/
structure Measured (β : Type) where
  backend : β
  results : List ResultId
  live : List ResultId

namespace Measured

variable {β : Type}

/- A backend that nothing has been asked of. -/
def start
    (b : β) : Measured β :=
  { backend := b
    results := []
    live := [] }

/- The result behind a name. -/
def result
    (named : Measured β)
    (name : ResultId) : ResultId :=
  if name.IsConstant then
    name
  else
    named.results.getD (name.raw - ResultId.firstDynamic) default

/- The name of the next result. -/
def next
    (named : Measured β) : ResultId :=
  { raw := ResultId.firstDynamic + named.results.length }

/- A name may be used. -/
def Usable
    (named : Measured β)
    (name : ResultId) : Prop :=
  name.IsConstant ∨ name ∈ named.live

/- What a client sees of an answer: for a new result its name. -/
def seen
    (named : Measured β) :
    Except BackendError Reply → Except BackendError Reply
  | .ok (.result _) => .ok (.result named.next)
  | answer => answer

/- A new result gets the next name. -/
def recorded
    (r : ResultId)
    (after : β)
    (named : Measured β) : Measured β :=
  { backend := after
    results := named.results ++ [r]
    live := named.next :: named.live }

/- The backend after it has been asked and has answered. -/
def answered
    (request : Request R)
    (answer : Except BackendError Reply)
    (after : β)
    (named : Measured β) : Measured β :=
  match request, answer with
  | .measure _ _, .ok (.result r) => named.recorded r after
  | .releaseResult name, .ok _ =>
      { named with
        backend := after
        live := named.live.filter (· ≠ name) }
  | _, _ => { named with backend := after }

/- Only measurements and releases of results change the names. -/
theorem answered_of_actsOnQubits
    {request : Request R}
    (hActs : request.ActsOnQubits)
    (answer : Except BackendError Reply)
    (after : β)
    (named : Measured β) :
    named.answered request answer after =
      { named with backend := after } := by
  cases request <;> first | rfl | exact hActs.elim

/- Put a request that names results by their measurements. -/
def ask
    [Scalar R]
    [Backend R β]
    (request : Request R)
    (named : Measured β) : Except BackendError Reply × Measured β :=
  let (answer, after) :=
    (request.renameResults named.result).run.perform named.backend
  (named.seen answer, named.answered request answer after)

theorem ask_eq
    [Scalar R]
    [Backend R β]
    {request : Request R}
    {named : Measured β}
    {answer : Except BackendError Reply}
    {after : β}
    (hRun :
      (request.renameResults named.result).run.perform
          named.backend =
        (answer, after)) :
    named.ask request =
      (named.seen answer, named.answered request answer after) := by
  rw [ask, hRun]

/- Of two backends with as many results the next has one name. -/
theorem next_eq_of_length_eq
    {γ : Type}
    {named : Measured β}
    {named' : Measured γ}
    (hLength : named'.results.length = named.results.length) :
    named'.next = named.next := by
  unfold next
  rw [hLength]

theorem seen_eq_of_length_eq
    {γ : Type}
    {named : Measured β}
    {named' : Measured γ}
    (hLength : named'.results.length = named.results.length)
    (answer : Except BackendError Reply) :
    named'.seen answer = named.seen answer := by
  unfold seen
  rw [next_eq_of_length_eq hLength]

theorem result_of_isConstant
    {name : ResultId}
    (hConstant : name.IsConstant)
    (named : Measured β) :
    named.result name = name :=
  if_pos hConstant

theorem raw_next_recorded
    (named : Measured β)
    (r : ResultId)
    (after : β) :
    (named.recorded r after).next.raw = named.next.raw + 1 := by
  simp [next, recorded, Nat.add_assoc]

theorem not_isConstant_next
    (named : Measured β) :
    ¬ named.next.IsConstant :=
  Nat.not_lt.mpr (Nat.le_add_right _ _)

/- A new result does not change what the other names stand for. -/
theorem result_recorded
    {named : Measured β}
    {name : ResultId}
    (hName : name.raw < named.next.raw)
    (r : ResultId)
    (after : β) :
    (named.recorded r after).result name = named.result name := by
  unfold result
  by_cases hConstant : name.IsConstant
  · rw [if_pos hConstant, if_pos hConstant]
  · have hIndex :
        name.raw - ResultId.firstDynamic < named.results.length := by
      unfold next at hName
      unfold ResultId.IsConstant at hConstant
      dsimp only at hName
      omega
    rw [if_neg hConstant, if_neg hConstant]
    simp [recorded, List.getD, List.getElem?_append_left hIndex]

/- The next name stands for the new result. -/
theorem result_recorded_next
    (named : Measured β)
    (r : ResultId)
    (after : β) :
    (named.recorded r after).result named.next = r := by
  rw [result, if_neg named.not_isConstant_next]
  simp [next, recorded]

end Measured

------------------------------------------------------------
-- Clients that name results
------------------------------------------------------------

namespace Client

variable {β γ : Type} [Scalar R] [Backend R β] [Backend R γ]

/- The answers that a client sees, with the states after them. -/
def resultTrace :
    Client R → Measured β →
      List (Except BackendError Reply × Measured β)
  | done, _ => []
  | ask request next, named =>
      let step := named.ask request
      step :: (next step.1).resultTrace step.2

/- A client names only constants and results not yet released. -/
def RespectsResults : Client R → Measured β → Prop
  | done, _ => True
  | ask request next, named =>
      (∀ r ∈ request.results, named.Usable r) ∧
        (next (named.ask request).1).RespectsResults
          (named.ask request).2

/-
  If requests that name usable results keep two backends related
  and are answered alike, then so is a whole client that
  respects results.
-/
theorem forall₂_resultTrace
    {Related : Measured β → Measured γ → Prop}
    (hStep :
      ∀ (request : Request R) (named : Measured β)
          (named' : Measured γ),
        Related named named' →
        (∀ r ∈ request.results, named.Usable r) →
          (named'.ask request).1 = (named.ask request).1 ∧
            Related (named.ask request).2 (named'.ask request).2)
    (client : Client R)
    {named : Measured β}
    {named' : Measured γ}
    (hRelated : Related named named')
    (hRespects : client.RespectsResults named) :
    List.Forall₂
      (fun step step' =>
        step'.1 = step.1 ∧ Related step.2 step'.2)
      (client.resultTrace named) (client.resultTrace named') := by
  induction client generalizing named named' with
  | done => exact .nil
  | ask request next ih =>
      rcases hRespects with ⟨hUsable, hRest⟩
      rcases hStep request named named' hRelated hUsable with
        ⟨hAnswer, hAfter⟩
      refine .cons ⟨hAnswer, hAfter⟩ ?_
      rw [hAnswer]
      exact ih _ hAfter hRest

end Client

end QuantumRuntime

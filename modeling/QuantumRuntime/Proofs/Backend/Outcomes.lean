import QuantumRuntime.Proofs.Backend.Holdings
import QuantumRuntime.Proofs.Scope.Owed

/-
  This file describes tables of recorded outcomes. An exchange
  records one outcome under a new result, drops one, or leaves
  all of them alone, so an outcome stays what it was until its
  result is released, and a result that was released is never
  issued again. A ledger of a history is a table that keeps the
  outcomes of the results which the history still owes.

  Key definitions include:
    * `ResultId.Valid`
    * `outcomeOf`
    * `readOutcome`
    * `compareOutcomes`
    * `OutcomeStep`
    * `Ledger`

  Key theorems include:
    * `OutcomeStep.outcomeOf_eq`
    * `OutcomeStep.stays_released`
    * `Ledger.step`
    * `Ledger.exists_outcomeOf`
-/

namespace QuantumRuntime

variable {R : Type}

------------------------------------------------------------
-- Constants
------------------------------------------------------------

namespace ResultId

theorem constantValue_eq_some_iff
    (r : ResultId)
    (bit : Bool) :
    r.constantValue = some bit ↔ r = ofBool bit := by
  rcases r with ⟨_ | _ | n⟩ <;>
    cases bit <;>
      simp [constantValue, ofBool, zero, one]

theorem constantValue_eq_none_iff
    (r : ResultId) :
    r.constantValue = none ↔ ¬ r.IsConstant := by
  rcases r with ⟨_ | _ | n⟩ <;>
    simp [constantValue, IsConstant, firstDynamic]

theorem IsConstant.exists_eq_ofBool
    {r : ResultId}
    (hConstant : r.IsConstant) :
    ∃ bit, r = ofBool bit := by
  have hValue : r.constantValue ≠ none :=
    fun hNone => r.constantValue_eq_none_iff.mp hNone hConstant
  rcases Option.ne_none_iff_exists'.mp hValue with ⟨bit, hBit⟩
  exact ⟨bit, (r.constantValue_eq_some_iff bit).mp hBit⟩

@[simp] theorem constantValue_ofBool
    (bit : Bool) :
    (ofBool bit).constantValue = some bit :=
  ((ofBool bit).constantValue_eq_some_iff bit).mpr rfl

theorem isConstant_ofBool
    (bit : Bool) :
    (ofBool bit).IsConstant := by
  cases bit <;> decide

theorem ofBool_inj
    (bit₁ bit₂ : Bool) :
    ofBool bit₁ = ofBool bit₂ ↔ bit₁ = bit₂ := by
  rw [← constantValue_eq_some_iff, constantValue_ofBool,
    Option.some_inj]

/- Constants are equal when they stand for the same bit. -/
theorem decide_ofBool_eq
    (bit₁ bit₂ : Bool) :
    decide (ofBool bit₁ = ofBool bit₂) = decide (bit₁ = bit₂) :=
  decide_eq_decide.mpr (ofBool_inj bit₁ bit₂)

/-
  A result may be used: it is a constant, or it was handed out
  and no release of it has been accepted since.
-/
def Valid
    (history : List (Exchange R))
    (r : ResultId) : Prop :=
  r.IsConstant ∨ Owes history (.result r)

end ResultId

/- The outcome that a result stands for, if one is known. -/
def outcomeOf
    (outcomes : HandleTable ResultId Bool)
    (r : ResultId) : Option Bool :=
  r.constantValue.or (outcomes.get? r)

theorem outcomeOf_ofBool
    (outcomes : HandleTable ResultId Bool)
    (bit : Bool) :
    outcomeOf outcomes (ResultId.ofBool bit) = some bit := by
  rw [outcomeOf, ResultId.constantValue_ofBool, Option.some_or]

theorem outcomeOf_of_not_isConstant
    (outcomes : HandleTable ResultId Bool)
    {r : ResultId}
    (hDynamic : ¬ r.IsConstant) :
    outcomeOf outcomes r = outcomes.get? r := by
  rw [outcomeOf, r.constantValue_eq_none_iff.mpr hDynamic,
    Option.none_or]

/- Without a recorded outcome only a constant stands for one. -/
theorem eq_ofBool_of_not_live
    {outcomes : HandleTable ResultId Bool}
    {r : ResultId}
    {bit : Bool}
    (hDead : ¬ outcomes.Live r)
    (hOutcome : outcomeOf outcomes r = some bit) :
    r = ResultId.ofBool bit := by
  rw [outcomeOf, Option.not_isSome_iff_eq_none.mp hDead,
    Option.or_none] at hOutcome
  exact (r.constantValue_eq_some_iff bit).mp hOutcome

/- Read the outcome that a result stands for. -/
def readOutcome
    (outcomes : HandleTable ResultId Bool)
    (operation : String)
    (r : ResultId) : Except BackendError Bool :=
  match r.constantValue with
  | some bit => .ok bit
  | none => outcomes.get r operation

/- An outcome that is known is read. -/
theorem readOutcome_of_outcomeOf
    {outcomes : HandleTable ResultId Bool}
    {r : ResultId}
    {bit : Bool}
    (hOutcome : outcomeOf outcomes r = some bit)
    (operation : String) :
    readOutcome outcomes operation r = .ok bit := by
  unfold readOutcome
  unfold outcomeOf at hOutcome
  cases hValue : r.constantValue with
  | some own =>
      rw [hValue, Option.some_or] at hOutcome
      rw [Option.some.inj hOutcome]
  | none =>
      rw [hValue, Option.none_or] at hOutcome
      exact HandleTable.get_of_live hOutcome operation

/- A result that was issued and is dead was released. -/
theorem readOutcome_of_released
    {outcomes : HandleTable ResultId Bool}
    {r : ResultId}
    (hDynamic : ¬ r.IsConstant)
    (hReleased : outcomes.Issued r ∧ ¬ outcomes.Live r)
    (operation : String) :
    readOutcome outcomes operation r =
      .error (.contractViolation operation (.result r) .released) := by
  unfold readOutcome
  rw [r.constantValue_eq_none_iff.mpr hDynamic]
  dsimp only
  rw [HandleTable.get_of_dead
      (Option.not_isSome_iff_eq_none.mp hReleased.2),
    HandleTable.violation_eq, if_pos hReleased.1]
  rfl

/- Whether two results stand for the same outcome. -/
def compareOutcomes
    (outcomes : HandleTable ResultId Bool)
    (r₁ r₂ : ResultId) : Except BackendError Bool := do
  let bit₁ ← readOutcome outcomes "result_equal" r₁
  let bit₂ ← readOutcome outcomes "result_equal" r₂
  .ok (bit₁ = bit₂)

/- Results whose outcomes are known are compared by them. -/
theorem compareOutcomes_of_outcomeOf
    {outcomes : HandleTable ResultId Bool}
    {r₁ r₂ : ResultId}
    {bit₁ bit₂ : Bool}
    (hFirst : outcomeOf outcomes r₁ = some bit₁)
    (hSecond : outcomeOf outcomes r₂ = some bit₂) :
    compareOutcomes outcomes r₁ r₂ = .ok (bit₁ = bit₂) := by
  unfold compareOutcomes
  rw [readOutcome_of_outcomeOf hFirst,
    readOutcome_of_outcomeOf hSecond]
  rfl

/- A released result cannot be compared, on either side. -/
theorem compareOutcomes_of_released
    {outcomes : HandleTable ResultId Bool}
    {r other : ResultId}
    {bit : Bool}
    (hDynamic : ¬ r.IsConstant)
    (hReleased : outcomes.Issued r ∧ ¬ outcomes.Live r)
    (hOther : outcomeOf outcomes other = some bit) :
    compareOutcomes outcomes r other =
        .error (.contractViolation "result_equal" (.result r)
          .released) ∧
      compareOutcomes outcomes other r =
        .error (.contractViolation "result_equal" (.result r)
          .released) := by
  unfold compareOutcomes
  rw [readOutcome_of_released hDynamic hReleased,
    readOutcome_of_outcomeOf hOther]
  exact ⟨rfl, rfl⟩

------------------------------------------------------------
-- Steps
------------------------------------------------------------

/-
  What an exchange does to a table of outcomes. A backend that
  keeps no table hands out constants and keeps the empty one.
-/
inductive OutcomeStep
    (outcomes : HandleTable ResultId Bool) :
    Exchange R → HandleTable ResultId Bool → Prop
  | recorded
      (bases : List Pauli)
      (targets : List QubitId)
      (outcome : Bool) :
      OutcomeStep outcomes
        (.measure bases targets,
          .ok (.result (outcomes.insert outcome).1))
        (outcomes.insert outcome : ResultId × HandleTable _ _).2
  | dropped
      (r : ResultId)
      (reply : Reply)
      (hLive : outcomes.Live r) :
      OutcomeStep outcomes (.releaseResult r, .ok reply)
        (outcomes.without r)
  | kept
      (event : Exchange R)
      (hCreates :
        ∀ r, event.Creates (.result r) → r.IsConstant)
      (hEnds :
        ∀ r, event.Ends (.result r) → ¬ outcomes.Live r) :
      OutcomeStep outcomes event outcomes

namespace OutcomeStep

variable {outcomes after : HandleTable ResultId Bool}
variable {event : Exchange R}

/- A refusal keeps all outcomes. -/
theorem refused
    (outcomes : HandleTable ResultId Bool)
    (request : Request R)
    (e : BackendError) :
    OutcomeStep outcomes (request, .error e) outcomes := by
  refine .kept _ (fun r hCreates => ?_) (fun r hEnds => ?_)
  · exact absurd hCreates (Exchange.not_creates_error request e _)
  · exact absurd hEnds (Exchange.not_ends_error request e _)

/- So does a request that keeps all handles. -/
theorem of_keepsHandles
    (outcomes : HandleTable ResultId Bool)
    {request : Request R}
    (hKeeps : request.KeepsHandles)
    (answer : Except BackendError Reply) :
    OutcomeStep outcomes (request, answer) outcomes := by
  refine .kept _ (fun r hCreates => ?_) (fun r hEnds => ?_)
  · exact absurd hCreates
      (Exchange.not_creates_of_keepsHandles hKeeps answer _)
  · exact absurd hEnds
      (Exchange.not_ends_of_keepsHandles hKeeps answer _)

/- So do an allocation and the release of a qubit. -/
theorem allocated
    (outcomes : HandleTable ResultId Bool)
    (q : QubitId) :
    OutcomeStep (R := R) outcomes
      (.allocateQubit, .ok (.qubit q)) outcomes := by
  refine .kept _ (fun r hCreates => ?_) (fun r hEnds => ?_)
  · exact Handle.noConfusion
      ((Exchange.creates_allocated_iff q _).mp hCreates)
  · exact absurd hEnds (Exchange.not_ends_allocateQubit _ _)

theorem qubitReleased
    (outcomes : HandleTable ResultId Bool)
    (q : QubitId)
    (reply : Reply) :
    OutcomeStep (R := R) outcomes
      (.releaseQubit q, .ok reply) outcomes := by
  refine .kept _ (fun r hCreates => ?_) (fun r hEnds => ?_)
  · exact absurd hCreates (Exchange.not_creates_releaseQubit q _ _)
  · exact Handle.noConfusion
      ((Exchange.ends_releasedQubit_iff q reply _).mp hEnds)

/- A constant that is handed out is not recorded. -/
theorem constantGiven
    (outcomes : HandleTable ResultId Bool)
    (bases : List Pauli)
    (targets : List QubitId)
    (bit : Bool) :
    OutcomeStep (R := R) outcomes
      (.measure bases targets, .ok (.result (.ofBool bit)))
      outcomes := by
  refine .kept _ (fun r hCreates => ?_) (fun r hEnds => ?_)
  · cases (Exchange.creates_measured_iff bases targets _ _).mp
      hCreates
    exact ResultId.isConstant_ofBool bit
  · exact absurd hEnds (Exchange.not_ends_measure bases targets _ _)

/- A result that is not recorded can be released in vain. -/
theorem releasedInVain
    {r : ResultId}
    (hDead : ¬ outcomes.Live r)
    (reply : Reply) :
    OutcomeStep (R := R) outcomes
      (.releaseResult r, .ok reply) outcomes := by
  refine .kept _ (fun other hCreates => ?_) (fun other hEnds => ?_)
  · exact absurd hCreates (Exchange.not_creates_releaseResult r _ _)
  · cases (Exchange.ends_releasedResult_iff r reply _).mp hEnds
    exact hDead

/-
  An outcome stays what it was, unless the release of its result
  is accepted.
-/
theorem outcomeOf_eq
    (hCoherent : outcomes.Coherent)
    (hStep : OutcomeStep outcomes event after)
    {r : ResultId}
    {bit : Bool}
    (hOutcome : outcomeOf outcomes r = some bit)
    (hKept : r.IsConstant ∨ ¬ event.Ends (.result r)) :
    outcomeOf after r = some bit := by
  by_cases hConstant : r.IsConstant
  · rcases hConstant.exists_eq_ofBool with ⟨own, rfl⟩
    rw [outcomeOf_ofBool] at hOutcome ⊢
    exact hOutcome
  · have hNotEnds := hKept.resolve_left hConstant
    rw [outcomeOf_of_not_isConstant _ hConstant] at hOutcome ⊢
    cases hStep with
    | recorded bases targets outcome =>
        rw [hCoherent.get?_insert, if_neg]
        · exact hOutcome
        · rintro rfl
          rw [hCoherent.get?_insert_fst] at hOutcome
          cases hOutcome
    | dropped released reply hLive =>
        rcases (outcomes.live_iff released).mp hLive with
          ⟨own, hOwn⟩
        rw [HandleTable.get?_without
            (HandleTable.issued_of_get?_eq_some _ hOwn), if_neg]
        · exact hOutcome
        · rintro rfl
          exact hNotEnds
            ((Exchange.ends_releasedResult_iff r reply _).mpr rfl)
    | kept => exact hOutcome

/- No result is taken back. -/
theorem issued
    (hCoherent : outcomes.Coherent)
    (hStep : OutcomeStep outcomes event after)
    {r : ResultId}
    (hIssued : outcomes.Issued r) :
    after.Issued r := by
  cases hStep with
  | recorded bases targets outcome =>
      exact (hCoherent.issued_insert_iff outcome r).mpr (.inr hIssued)
  | dropped released reply hLive =>
      exact (outcomes.issued_without_iff released r).mpr hIssued
  | kept => exact hIssued

/- A result that was issued and is dead stays so. -/
theorem stays_released
    (hCoherent : outcomes.Coherent)
    (hFree : outcomes.free = none)
    (hStep : OutcomeStep outcomes event after)
    {r : ResultId}
    (hReleased : outcomes.Issued r ∧ ¬ outcomes.Live r) :
    after.Issued r ∧ ¬ after.Live r := by
  rcases hReleased with ⟨hIssued, hDead⟩
  refine ⟨hStep.issued hCoherent hIssued, ?_⟩
  cases hStep with
  | recorded bases targets outcome =>
      rw [hCoherent.live_insert_iff]
      rintro (rfl | hLive)
      · exact outcomes.not_issued_insert_fst hFree outcome hIssued
      · exact hDead hLive
  | dropped released reply hLive =>
      rw [HandleTable.live_without_iff hLive]
      exact fun hBoth => hDead hBoth.2
  | kept => exact hDead

end OutcomeStep

------------------------------------------------------------
-- Ledgers
------------------------------------------------------------

/-
  A table that has outcomes for the results that a history owes,
  and has issued all results but constants that the history has
  handed out.
-/
structure Ledger
    (history : List (Exchange R))
    (outcomes : HandleTable ResultId Bool) : Prop where
  coherent : outcomes.Coherent
  base_eq : outcomes.base = ResultId.firstDynamic
  free_eq : outcomes.free = none
  live_iff :
    ∀ r,
      outcomes.Live r ↔
        ¬ r.IsConstant ∧ Owes history (.result r)
  issued :
    ∀ event ∈ history, ∀ r,
      event.Creates (.result r) →
        r.IsConstant ∨ outcomes.Issued r

namespace Ledger

variable {history : List (Exchange R)}
variable {outcomes after : HandleTable ResultId Bool}
variable {event : Exchange R}

/- The empty table is the ledger of the empty history. -/
theorem start :
    Ledger ([] : List (Exchange R))
      (HandleTable.empty.withBase ResultId.firstDynamic) where
  coherent := HandleTable.coherent_make false ResultId.firstDynamic
  base_eq := rfl
  free_eq := rfl
  live_iff r :=
    iff_of_false
      (HandleTable.not_live_empty ResultId.firstDynamic r)
      fun hOwes => Owes.not_nil _ hOwes.2
  issued _ hMem := absurd hMem List.not_mem_nil

/- The result that is issued next is no constant. -/
theorem not_isConstant_insert_fst
    (hLedger : Ledger history outcomes)
    (outcome : Bool) :
    ¬ ((outcomes.insert outcome).1 : ResultId).IsConstant := by
  have hIssued :=
    (hLedger.coherent.issued_insert_iff outcome
      ((outcomes.insert outcome).1 : ResultId)).mpr (.inl rfl)
  have hBase := hIssued.1
  rw [HandleTable.base_insert, hLedger.base_eq] at hBase
  exact Nat.not_lt.mpr hBase

/- It stands for the outcome that is recorded. -/
theorem outcomeOf_insert
    (hLedger : Ledger history outcomes)
    (outcome : Bool) :
    outcomeOf (outcomes.insert outcome).2
      (outcomes.insert outcome : ResultId × HandleTable _ _).1 =
        some outcome := by
  rw [outcomeOf_of_not_isConstant _
      (hLedger.not_isConstant_insert_fst outcome),
    hLedger.coherent.get?_insert, if_pos rfl]

/- It has not been handed out before. -/
theorem not_created_insert_fst
    (hLedger : Ledger history outcomes)
    (outcome : Bool) :
    ∀ event ∈ history,
      ¬ event.Creates (.result (outcomes.insert outcome).1) := by
  intro event hMem hCreates
  rcases hLedger.issued event hMem _ hCreates with
    hConstant | hIssued
  · exact hLedger.not_isConstant_insert_fst outcome hConstant
  · exact outcomes.not_issued_insert_fst hLedger.free_eq outcome
      hIssued

/- A ledger records what it hands out. -/
theorem recorded
    (hLedger : Ledger history outcomes)
    (bases : List Pauli)
    (targets : List QubitId)
    (outcome : Bool) :
    Ledger
      (history ++
        [(.measure bases targets,
          .ok (.result (outcomes.insert outcome).1))])
      (outcomes.insert outcome : ResultId × HandleTable _ _).2 where
  coherent := hLedger.coherent.insert outcome
  base_eq := (outcomes.base_insert outcome).trans hLedger.base_eq
  free_eq := by
    rw [← Option.not_isSome_iff_eq_none,
      HandleTable.isSome_free_insert, hLedger.free_eq]
    exact Bool.false_ne_true
  live_iff r := by
    have hDynamic :
        r = (outcomes.insert outcome).1 → ¬ r.IsConstant := by
      rintro rfl
      exact hLedger.not_isConstant_insert_fst outcome
    have hNotEnds :=
      Exchange.not_ends_measure (R := R) bases targets
        (.ok (.result (outcomes.insert outcome).1)) (.result r)
    rw [hLedger.coherent.live_insert_iff, hLedger.live_iff,
      Owes.append_singleton_iff, Exchange.creates_measured_iff,
      Handle.result.injEq]
    tauto
  issued := by
    intro event hMem r hCreates
    rw [hLedger.coherent.issued_insert_iff]
    rcases List.mem_append.mp hMem with hOld | hNew
    · exact (hLedger.issued event hOld r hCreates).imp_right .inr
    · cases List.mem_singleton.mp hNew
      rw [Exchange.creates_measured_iff,
        Handle.result.injEq] at hCreates
      exact .inr (.inl hCreates)

/- A ledger drops what is released. -/
theorem dropped
    (hLedger : Ledger history outcomes)
    {r : ResultId}
    (hLive : outcomes.Live r)
    (reply : Reply) :
    Ledger (history ++ [(.releaseResult r, .ok reply)])
      (outcomes.without r) where
  coherent := by
    rcases (outcomes.live_iff r).mp hLive with ⟨bit, hBit⟩
    exact hLedger.coherent.without hBit
  base_eq := hLedger.base_eq
  free_eq := by
    rw [← Option.not_isSome_iff_eq_none,
      HandleTable.isSome_free_without, hLedger.free_eq]
    exact Bool.false_ne_true
  live_iff other := by
    have hNotCreates :=
      Exchange.not_creates_releaseResult (R := R) r (.ok reply)
        (.result other)
    rw [HandleTable.live_without_iff hLive, hLedger.live_iff,
      Owes.append_singleton_iff, Exchange.ends_releasedResult_iff,
      Handle.result.injEq]
    tauto
  issued := by
    intro event hMem other hCreates
    rw [HandleTable.issued_without_iff]
    rcases List.mem_append.mp hMem with hOld | hNew
    · exact hLedger.issued event hOld other hCreates
    · cases List.mem_singleton.mp hNew
      exact absurd hCreates (Exchange.not_creates_releaseResult _ _ _)

/- An exchange of constants only leaves a ledger as it is. -/
theorem kept
    (hLedger : Ledger history outcomes)
    (hCreates : ∀ r, event.Creates (.result r) → r.IsConstant)
    (hEnds : ∀ r, event.Ends (.result r) → ¬ outcomes.Live r) :
    Ledger (history ++ [event]) outcomes where
  coherent := hLedger.coherent
  base_eq := hLedger.base_eq
  free_eq := hLedger.free_eq
  live_iff r := by
    have hLive := hLedger.live_iff r
    have hConstant := hCreates r
    have hDead := hEnds r
    rw [Owes.append_singleton_iff]
    tauto
  issued := by
    intro other hMem r hOther
    rcases List.mem_append.mp hMem with hOld | hNew
    · exact hLedger.issued other hOld r hOther
    · cases List.mem_singleton.mp hNew
      exact .inl (hCreates r hOther)

/- Every step of the outcomes leads from ledger to ledger. -/
theorem step
    (hLedger : Ledger history outcomes)
    (hStep : OutcomeStep outcomes event after) :
    Ledger (history ++ [event]) after := by
  cases hStep with
  | recorded bases targets outcome =>
      exact hLedger.recorded bases targets outcome
  | dropped r reply hLive => exact hLedger.dropped hLive reply
  | kept event hCreates hEnds => exact hLedger.kept hCreates hEnds

/- Every result that may be used has an outcome. -/
theorem exists_outcomeOf
    (hLedger : Ledger history outcomes)
    {r : ResultId}
    (hValid : r.Valid history) :
    ∃ bit, outcomeOf outcomes r = some bit := by
  by_cases hConstant : r.IsConstant
  · rcases hConstant.exists_eq_ofBool with ⟨bit, rfl⟩
    exact ⟨bit, outcomeOf_ofBool outcomes bit⟩
  · rw [outcomeOf_of_not_isConstant _ hConstant]
    exact (outcomes.live_iff r).mp
      ((hLedger.live_iff r).mpr
        ⟨hConstant, hValid.resolve_left hConstant⟩)

end Ledger

end QuantumRuntime

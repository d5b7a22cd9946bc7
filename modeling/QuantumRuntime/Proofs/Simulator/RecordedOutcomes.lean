import QuantumRuntime.Proofs.Backend.Outcomes
import QuantumRuntime.Proofs.Simulator.Acceptance

/-
  This file proves that a recorded outcome never changes, in any
  of the simulators and whatever they are asked after it: gates,
  measurements, allocations and releases, also of the qubit that
  was measured. Comparing results is comparing outcomes, and a
  result that was released is refused as such ever after.

  Key definitions include:
    * `Builtin.outcomes`
    * `Builtin.outcome`
    * `Builtin.Tracks`
    * `Builtin.Continues`

  Key theorems include:
    * `Builtin.outcomeStep`
    * `Builtin.HasHistory.ledger`
    * `Builtin.exists_outcome`
    * `Builtin.Continues.outcomeOf_eq`
    * `Builtin.recorded_outcomes_never_change`
-/

namespace QuantumRuntime

variable {R : Type}

------------------------------------------------------------
-- Outcomes of the simulators
------------------------------------------------------------

section

variable [Scalar R]

/- What a request does to the outcomes of the full simulator. -/
theorem FullState.Effect.outcomeStep
    {sim after : FullState R}
    {request : Request R}
    {answer : Except BackendError Reply}
    (hCoherent : sim.holdings.Coherent)
    (hEffect : sim.Effect request answer after) :
    OutcomeStep sim.results (request, answer) after.results := by
  cases hEffect with
  | refused request e => exact .refused sim.results request e
  | allocated hRoom => exact .allocated sim.results sim.nextQubit
  | released q position hLive =>
      exact .qubitReleased sim.results q .done
  | measured bases targets basis target position bit state =>
      exact .recorded bases targets bit
  | constantKept r hConstant =>
      refine .releasedInVain (fun hLive => ?_) .done
      exact hCoherent.not_isConstant
        ((Holdings.holds_ofTables_result r).mpr hLive) hConstant
  | resultReleased r bit hDynamic hLive =>
      exact .dropped r .done
        ((sim.results.live_iff r).mpr ⟨bit, hLive⟩)
  | _ => exact .of_keepsHandles sim.results (by trivial) _

end

/- What a request does to the outcomes of the simulator of bits. -/
theorem Toffoli.Effect.outcomeStep
    {sim after : Toffoli R}
    {request : Request R}
    {answer : Except BackendError Reply}
    (hSound : sim.Sound)
    (hEffect : sim.Effect request answer after) :
    OutcomeStep sim.results (request, answer) after.results := by
  cases hEffect with
  | refused request e => exact .refused sim.results request e
  | allocated => exact .allocated sim.results _
  | released q hLive => exact .qubitReleased sim.results q .done
  | kept request reply after hKeeps hQubits hResults =>
      rw [hResults]
      exact .of_keepsHandles sim.results hKeeps _
  | measured bases targets outcome =>
      cases hMode : sim.mode with
      | tracked =>
          simp only [handOut, hMode]
          exact .recorded bases targets outcome
      | canonical =>
          simp only [handOut, hMode]
          exact .constantGiven sim.results bases targets outcome
  | resultKept r hKept =>
      refine .releasedInVain (fun hLive => ?_) .done
      rcases hKept with hConstant | hCanonical
      · exact hSound.coherent.not_isConstant
          ((Holdings.holds_ofTables_result r).mpr hLive) hConstant
      · exact hSound.canonical hCanonical r hLive
  | resultReleased r hTracked hLive => exact .dropped r .done hLive

/- The tracer records nothing, for all its outcomes are zero. -/
theorem Tracer.Effect.outcomeStep
    {tracer after : Tracer R}
    {request : Request R}
    {answer : Except BackendError Reply}
    (hEffect : tracer.Effect request answer after) :
    OutcomeStep (HandleTable.empty.withBase ResultId.firstDynamic)
      (request, answer)
      (HandleTable.empty.withBase ResultId.firstDynamic) := by
  cases hEffect with
  | refused request e => exact .refused _ request e
  | allocated => exact .allocated _ _
  | released q hLive => exact .qubitReleased _ q .done
  | measured bases targets => exact .constantGiven _ bases targets false
  | resultKept r =>
      exact .releasedInVain
        (HandleTable.not_live_empty ResultId.firstDynamic r) .done
  | _ => exact .of_keepsHandles _ (by trivial) _

/- Tracked results are compared by their outcomes. -/
theorem Toffoli.areEqualResults_of_tracked
    {sim : Toffoli R}
    (hTracked : sim.mode = .tracked)
    (r₁ r₂ : ResultId) :
    sim.areEqualResults r₁ r₂ =
      compareOutcomes sim.results r₁ r₂ := by
  unfold areEqualResults
  rw [hTracked]
  rfl

/- A request does not change how results are handed out. -/
theorem Toffoli.Effect.mode_eq
    {sim after : Toffoli R}
    {request : Request R}
    {answer : Except BackendError Reply}
    (hEffect : sim.Effect request answer after) :
    after.mode = sim.mode := by
  cases hEffect with
  | kept request reply after _ _ _ hMode => exact hMode
  | measured bases targets outcome =>
      cases hMode : sim.mode <;> simp [handOut, hMode]
  | _ => rfl

namespace Builtin

/- The outcomes that a backend keeps. -/
def outcomes : Builtin R → HandleTable ResultId Bool
  | fullState sim => sim.results
  | toffoli sim => sim.results
  | _ => HandleTable.empty.withBase ResultId.firstDynamic

/- A backend hands out a new result for every measurement. -/
def Tracks : Builtin R → Prop
  | fullState _ => True
  | toffoli sim => sim.mode = .tracked
  | _ => False

variable [Scalar R]
variable {b b' : Builtin R}

/-
  The outcome that a measurement has in a state. The tracer does
  not know it and takes it to be zero.
-/
def outcome
    (bases : List Pauli)
    (targets : List QubitId)
    (b : Builtin R) : Option Bool :=
  match singleMeasurement (Backend.name b) bases targets with
  | .error _ => none
  | .ok (basis, target) =>
      match b with
      | fullState sim =>
          (sim.qubits.get? target).bind fun position =>
            ((FullState.measureAt position basis).perform
              sim).1.toOption
      | toffoli sim =>
          (sim.qubits.get? target).bind fun bit =>
            Toffoli.outcomeIn bit basis
      | tracer t => (t.qubits.get? target).map fun _ => false
      | stub _ => none

/- What a simulator answers and leaves is an effect of its own. -/
theorem effect_of_fullState
    {sim : FullState R}
    {request : Request R}
    {answer : Except BackendError Reply}
    (hAnswer :
      (request.run.perform (fullState sim)).1 = answer) :
    ∃ after,
      (request.run.perform (fullState sim)).2 = fullState after ∧
        sim.Effect request answer after := by
  subst hAnswer
  rw [fullState_morphism.run_eq]
  exact ⟨_, rfl, sim.effect request⟩

theorem effect_of_toffoli
    {sim : Toffoli R}
    {request : Request R}
    {answer : Except BackendError Reply}
    (hAnswer :
      (request.run.perform (toffoli sim)).1 = answer) :
    ∃ after,
      (request.run.perform (toffoli sim)).2 = toffoli after ∧
        sim.Effect request answer after := by
  subst hAnswer
  rw [toffoli_morphism.run_eq]
  exact ⟨_, rfl, sim.effect request⟩

theorem effect_of_tracer
    {t : Tracer R}
    {request : Request R}
    {answer : Except BackendError Reply}
    (hAnswer :
      (request.run.perform (tracer t)).1 = answer) :
    ∃ after,
      (request.run.perform (tracer t)).2 = tracer after ∧
        t.Effect request answer after := by
  subst hAnswer
  rw [tracer_morphism.run_eq]
  exact ⟨_, rfl, t.effect request⟩

/- Every request of a backend is a step of its outcomes. -/
theorem outcomeStep
    (hSound : bookkeeping.Sound b)
    (request : Request R) :
    OutcomeStep b.outcomes (request, (request.run.perform b).1)
      (request.run.perform b).2.outcomes := by
  cases b with
  | fullState sim =>
      rw [fullState_morphism.run_eq]
      exact (sim.effect request).outcomeStep hSound
  | toffoli sim =>
      rw [toffoli_morphism.run_eq]
      exact (sim.effect request).outcomeStep hSound
  | tracer t =>
      rw [tracer_morphism.run_eq]
      exact (t.effect request).outcomeStep
  | stub s =>
      rcases Stub.perform_run request s with ⟨e, hRun⟩
      rw [stub_morphism.run_eq, hRun]
      exact .refused _ request e

theorem tracks_run_iff
    (request : Request R)
    (b : Builtin R) :
    (request.run.perform b).2.Tracks ↔ b.Tracks := by
  cases b with
  | fullState sim =>
      rw [fullState_morphism.run_eq]
      rfl
  | toffoli sim =>
      rw [toffoli_morphism.run_eq, Tracks,
        (sim.effect request).mode_eq, Tracks]
  | tracer t =>
      rw [tracer_morphism.run_eq]
      rfl
  | stub s =>
      rw [stub_morphism.run_eq]
      rfl

/- The outcomes that are kept are a ledger of the history. -/
theorem HasHistory.ledger
    {history : List (Exchange R)}
    (hHistory : b.HasHistory history) :
    Ledger history b.outcomes := by
  induction hHistory with
  | fullState sim hFresh =>
      rw [outcomes, hFresh.untouched.results_eq]
      exact .start
  | toffoli sim hFresh =>
      rw [outcomes, hFresh.untouched.results_eq]
      exact .start
  | tracer name => exact .start
  | request request b history hHistory ih =>
      exact ih.step (outcomeStep hHistory.reachable.sound request)
  | takeMetrics b history hHistory ih => cases b <;> exact ih

section

variable {history : List (Exchange R)}
variable {bases : List Pauli} {targets : List QubitId}
variable {r : ResultId}

/- The full simulator records the outcome that it measures. -/
theorem exists_outcome_fullState
    {sim after : FullState R}
    (hLedger : Ledger history sim.results)
    (hEffect :
      sim.Effect (.measure bases targets) (.ok (.result r)) after) :
    ∃ bit,
      (fullState sim).outcome bases targets = some bit ∧
        outcomeOf after.results r = some bit := by
  cases hEffect with
  | measured _ _ basis target position bit state hSingle hLive
      hMeasured =>
      refine ⟨bit, ?_, hLedger.outcomeOf_insert bit⟩
      have hName : Backend.name (fullState sim) = sim.name := rfl
      rw [outcome, hName, hSingle]
      dsimp only
      rw [hLive, Option.bind_some, hMeasured]
      rfl

/- The simulator of bits records it or hands it out. -/
theorem exists_outcome_toffoli
    {sim after : Toffoli R}
    (hLedger : Ledger history sim.results)
    (hMeasured :
      (Toffoli.measure bases targets).perform sim =
        (.ok r, after)) :
    ∃ bit,
      (toffoli sim).outcome bases targets = some bit ∧
        outcomeOf after.results r = some bit := by
  have hName : Backend.name (toffoli sim) = sim.name := rfl
  rw [outcome, hName]
  cases hSingle : singleMeasurement sim.name bases targets with
  | error e =>
      rw [Toffoli.perform_measure_of_shape hSingle] at hMeasured
      cases hMeasured
  | ok pair =>
      rcases pair with ⟨basis, target⟩
      cases hKey : sim.qubits.get? target with
      | none =>
          rw [Toffoli.perform_measure_of_dead hSingle hKey]
            at hMeasured
          cases hMeasured
      | some own =>
          rw [Toffoli.perform_measure_of_live hSingle hKey]
            at hMeasured
          dsimp only
          rw [hKey, Option.bind_some]
          cases hOutcome : Toffoli.outcomeIn own basis with
          | none =>
              rw [hOutcome] at hMeasured
              cases hMeasured
          | some bit =>
              rw [hOutcome] at hMeasured
              refine ⟨bit, rfl, ?_⟩
              cases hMode : sim.mode with
              | tracked =>
                  simp only [Toffoli.handOut, hMode] at hMeasured
                  cases hMeasured
                  exact hLedger.outcomeOf_insert bit
              | canonical =>
                  simp only [Toffoli.handOut, hMode] at hMeasured
                  cases hMeasured
                  exact outcomeOf_ofBool sim.results bit

/- The tracer hands out zero. -/
theorem exists_outcome_tracer
    {t after : Tracer R}
    (hEffect :
      t.Effect (.measure bases targets) (.ok (.result r)) after) :
    (tracer t).outcome bases targets = some false ∧
      r = ResultId.ofBool false := by
  cases hEffect with
  | measured _ _ basis target layer hSingle hLive =>
      have hName : Backend.name (tracer t) = t.name := rfl
      rw [outcome, hName, hSingle]
      dsimp only
      rw [hLive]
      exact ⟨rfl, rfl⟩

/-
  A measurement that is accepted is answered with a result that
  stands for its outcome.
-/
theorem exists_outcome
    (hLedger : Ledger history b.outcomes)
    (hMeasured :
      ((Request.measure bases targets).run.perform b).1 =
        .ok (.result r)) :
    ∃ bit,
      b.outcome bases targets = some bit ∧
        outcomeOf
          ((Request.measure bases targets).run.perform b).2.outcomes
          r = some bit := by
  cases b with
  | fullState sim =>
      rcases effect_of_fullState hMeasured with
        ⟨after, hAfter, hEffect⟩
      rw [hAfter]
      exact exists_outcome_fullState hLedger hEffect
  | toffoli sim =>
      rcases hRun : (Toffoli.measure bases targets).perform sim with
        ⟨e | own, after⟩
      · rw [toffoli_morphism.run_eq, Request.run_measure hRun]
          at hMeasured
        cases hMeasured
      · rw [toffoli_morphism.run_eq, Request.run_measure hRun]
          at hMeasured ⊢
        cases hMeasured
        exact exists_outcome_toffoli hLedger hRun
  | tracer t =>
      rcases effect_of_tracer hMeasured with ⟨after, -, hEffect⟩
      rcases exists_outcome_tracer hEffect with ⟨hOutcome, rfl⟩
      exact ⟨false, hOutcome, outcomeOf_ofBool _ false⟩
  | stub s =>
      rcases Stub.perform_run (.measure bases targets) s with
        ⟨e, hRun⟩
      rw [stub_morphism.run_eq, hRun] at hMeasured
      cases hMeasured

/- Where results are tracked, it is the next one of the table. -/
theorem exists_insert_of_measured
    (hTracks : b.Tracks)
    (hMeasured :
      ((Request.measure bases targets).run.perform b).1 =
        .ok (.result r)) :
    ∃ bit, r = (b.outcomes.insert bit).1 := by
  cases b with
  | fullState sim =>
      rcases effect_of_fullState hMeasured with ⟨after, -, hEffect⟩
      cases hEffect with
      | measured _ _ basis target position bit => exact ⟨bit, rfl⟩
  | toffoli sim =>
      have hTracked : sim.mode = .tracked := hTracks
      rcases effect_of_toffoli hMeasured with ⟨after, -, hEffect⟩
      cases hEffect with
      | kept _ _ _ hKeeps => exact hKeeps.elim
      | measured _ _ bit =>
          refine ⟨bit, ?_⟩
          simp only [Toffoli.handOut, hTracked]
          rfl
  | tracer t => exact hTracks.elim
  | stub s => exact hTracks.elim

end

------------------------------------------------------------
-- Continuations
------------------------------------------------------------

/-
  A backend gets from one state into another by some exchanges.
  Its metrics may be taken at any time.
-/
inductive Continues
    (b : Builtin R) : List (Exchange R) → Builtin R → Prop
  | here :
      Continues b [] b
  | request
      (request : Request R)
      (later : List (Exchange R))
      (b' : Builtin R)
      (hContinues : Continues b later b') :
      Continues b
        (later ++ [(request, (request.run.perform b').1)])
        (request.run.perform b').2
  | takeMetrics
      (later : List (Exchange R))
      (b' : Builtin R)
      (hContinues : Continues b later b') :
      Continues b later
        ((Observable.takeMetrics (R := R)).perform b').2

/- Taking metrics leaves the outcomes alone. -/
theorem outcomes_takeMetrics
    (b : Builtin R) :
    ((Observable.takeMetrics (R := R)).perform b).2.outcomes =
      b.outcomes := by
  cases b <;> rfl

namespace Continues

variable {history later : List (Exchange R)}

/- What came before is part of the history. -/
theorem hasHistory
    (hHistory : b.HasHistory history)
    (hContinues : b.Continues later b') :
    b'.HasHistory (history ++ later) := by
  induction hContinues with
  | here => simpa using hHistory
  | request request later b' _ ih =>
      rw [← List.append_assoc]
      exact .request request b' _ ih
  | takeMetrics later b' _ ih => exact .takeMetrics b' _ ih

/- A run of requests continues a backend. -/
theorem of_run
    (b : Builtin R)
    (requests : List (Request R)) :
    b.Continues (requests.zip (runRequests b requests).1)
      (runRequests b requests).2 :=
  runRequests_induction
    (fun later b' request => Continues.request request later b')
    (Continues.here) requests

/- A backend hands out results as it did. -/
theorem tracks
    (hTracks : b.Tracks)
    (hContinues : b.Continues later b') :
    b'.Tracks := by
  induction hContinues with
  | here => exact hTracks
  | request request later b' _ ih =>
      exact (tracks_run_iff request b').mpr ih
  | takeMetrics later b' _ ih => cases b' <;> exact ih

/-
  An outcome stays what it was until the release of its result
  is accepted.
-/
theorem outcomeOf_eq
    (hHistory : b.HasHistory history)
    (hContinues : b.Continues later b')
    {r : ResultId}
    {bit : Bool}
    (hOutcome : outcomeOf b.outcomes r = some bit)
    (hKept :
      r.IsConstant ∨ ∀ event ∈ later, ¬ event.Ends (.result r)) :
    outcomeOf b'.outcomes r = some bit := by
  induction hContinues with
  | here => exact hOutcome
  | request request later b' hBefore ih =>
      have hNow := hBefore.hasHistory hHistory
      refine (outcomeStep hNow.reachable.sound request).outcomeOf_eq
        hNow.ledger.coherent (ih ?_) ?_
      · exact hKept.imp_right fun hAll event hMem =>
          hAll event (List.mem_append_left _ hMem)
      · exact hKept.imp_right fun hAll =>
          hAll _ (List.mem_append_right _ (List.mem_singleton_self _))
  | takeMetrics later b' hBefore ih =>
      rw [outcomes_takeMetrics]
      exact ih hKept

/- A result that was released stays so. -/
theorem stays_released
    (hHistory : b.HasHistory history)
    (hContinues : b.Continues later b')
    {r : ResultId}
    (hReleased : b.outcomes.Issued r ∧ ¬ b.outcomes.Live r) :
    b'.outcomes.Issued r ∧ ¬ b'.outcomes.Live r := by
  induction hContinues with
  | here => exact hReleased
  | request request later b' hBefore ih =>
      have hNow := hBefore.hasHistory hHistory
      exact
        (outcomeStep hNow.reachable.sound request).stays_released
          hNow.ledger.coherent hNow.ledger.free_eq ih
  | takeMetrics later b' hBefore ih =>
      rw [outcomes_takeMetrics]
      exact ih

end Continues

------------------------------------------------------------
-- Answers
------------------------------------------------------------

section

variable {r r₁ r₂ : ResultId} {bit bit₁ bit₂ : Bool}

/- A result is read as the outcome that it stands for. -/
theorem resultValue_eq
    (hSimulator : b.kind ≠ .stub)
    (hOutcome : outcomeOf b.outcomes r = some bit) :
    Backend.resultValue b r = .ok bit := by
  cases b with
  | fullState sim =>
      exact readOutcome_of_outcomeOf hOutcome "result_value"
  | toffoli sim =>
      exact readOutcome_of_outcomeOf hOutcome "result_value"
  | tracer t =>
      cases eq_ofBool_of_not_live
        (HandleTable.not_live_empty ResultId.firstDynamic r) hOutcome
      cases bit <;> rfl
  | stub s => exact absurd rfl hSimulator

/- Results are equal when their outcomes are. -/
theorem areEqualResults_eq
    (hSimulator : b.kind ≠ .stub)
    (hSound : bookkeeping.Sound b)
    (hFirst : outcomeOf b.outcomes r₁ = some bit₁)
    (hSecond : outcomeOf b.outcomes r₂ = some bit₂) :
    Backend.areEqualResults b r₁ r₂ = .ok (bit₁ = bit₂) := by
  cases b with
  | fullState sim => exact compareOutcomes_of_outcomeOf hFirst hSecond
  | toffoli sim =>
      change sim.areEqualResults r₁ r₂ = _
      cases hMode : sim.mode with
      | tracked =>
          rw [Toffoli.areEqualResults_of_tracked hMode]
          exact compareOutcomes_of_outcomeOf hFirst hSecond
      | canonical =>
          have hDead := Toffoli.Sound.canonical hSound hMode
          cases eq_ofBool_of_not_live (hDead r₁) hFirst
          cases eq_ofBool_of_not_live (hDead r₂) hSecond
          unfold Toffoli.areEqualResults
          rw [hMode]
          exact congrArg Except.ok
            (ResultId.decide_ofBool_eq bit₁ bit₂)
  | tracer t =>
      have hDead :=
        HandleTable.not_live_empty (V := Bool) ResultId.firstDynamic
          (K := ResultId)
      cases eq_ofBool_of_not_live (hDead r₁) hFirst
      cases eq_ofBool_of_not_live (hDead r₂) hSecond
      exact congrArg Except.ok
        (ResultId.decide_ofBool_eq bit₁ bit₂)
  | stub s => exact absurd rfl hSimulator

/- Constants can be released, and stay. -/
theorem perform_releaseResult_of_isConstant
    (hSimulator : b.kind ≠ .stub)
    (hConstant : r.IsConstant) :
    (Request.releaseResult r).run.perform b = (.ok .done, b) := by
  cases b with
  | fullState sim =>
      rw [fullState_morphism.run_eq,
        Request.run_releaseResult (FullState.perform_releaseResult r sim),
        if_pos hConstant]
      rfl
  | toffoli sim =>
      rw [toffoli_morphism.run_eq,
        Request.run_releaseResult (Toffoli.perform_releaseResult r sim),
        if_pos (.inl hConstant)]
      rfl
  | tracer t => rfl
  | stub s => exact absurd rfl hSimulator

/- A backend with tracked results releases only what it keeps. -/
theorem live_of_released
    (hTracks : b.Tracks)
    (hDynamic : ¬ r.IsConstant)
    {reply : Reply}
    (hReleased :
      ((Request.releaseResult r).run.perform b).1 = .ok reply) :
    b.outcomes.Live r := by
  cases b with
  | fullState sim =>
      rcases effect_of_fullState hReleased with ⟨after, -, hEffect⟩
      cases hEffect with
      | constantKept _ hConstant => exact absurd hConstant hDynamic
      | resultReleased _ bit _ hLive =>
          exact (sim.results.live_iff r).mpr ⟨bit, hLive⟩
  | toffoli sim =>
      rcases effect_of_toffoli hReleased with ⟨after, -, hEffect⟩
      cases hEffect with
      | kept _ _ _ hKeeps => exact hKeeps.elim
      | resultKept _ hKept =>
          rcases hKept with hConstant | hCanonical
          · exact absurd hConstant hDynamic
          · exact absurd (hCanonical.symm.trans hTracks)
              ResultMode.noConfusion
      | resultReleased _ _ hLive => exact hLive
  | tracer t => exact hTracks.elim
  | stub s => exact hTracks.elim

/-
  A result that was released is refused as such wherever it is
  read, compared or released.
-/
def RejectsReleased
    (history : List (Exchange R))
    (r : ResultId)
    (b : Builtin R) : Prop :=
  Backend.resultValue b r =
      .error (.contractViolation "result_value" (.result r)
        .released) ∧
    (Request.releaseResult r).run.perform b =
      (.error (.contractViolation "release_result" (.result r)
        .released), b) ∧
    ∀ other, ResultId.Valid history other →
      Backend.areEqualResults b r other =
          .error (.contractViolation "result_equal" (.result r)
            .released) ∧
        Backend.areEqualResults b other r =
          .error (.contractViolation "result_equal" (.result r)
            .released)

/- A backend with tracked results tells which were released. -/
theorem rejectsReleased
    {history : List (Exchange R)}
    (hTracks : b.Tracks)
    (hLedger : Ledger history b.outcomes)
    (hDynamic : ¬ r.IsConstant)
    (hReleased : b.outcomes.Issued r ∧ ¬ b.outcomes.Live r) :
    b.RejectsReleased history r := by
  have hRefused :
      b.outcomes.release r "release_result" =
        .error (.contractViolation "release_result" (.result r)
          .released) := by
    rw [HandleTable.release_of_dead
        (Option.not_isSome_iff_eq_none.mp hReleased.2),
      HandleTable.violation_eq, if_pos hReleased.1]
    rfl
  cases b with
  | fullState sim =>
      have hRelease :
          sim.results.release r "release_result" = _ := hRefused
      refine
        ⟨readOutcome_of_released hDynamic hReleased "result_value",
          ?_, fun other hValid => ?_⟩
      · rw [fullState_morphism.run_eq,
          Request.run_releaseResult
            (FullState.perform_releaseResult r sim),
          if_neg hDynamic, hRelease]
        rfl
      · rcases hLedger.exists_outcomeOf hValid with ⟨bit, hOther⟩
        exact compareOutcomes_of_released hDynamic hReleased hOther
  | toffoli sim =>
      have hTracked : sim.mode = .tracked := hTracks
      have hRelease :
          sim.results.release r "release_result" = _ := hRefused
      refine
        ⟨readOutcome_of_released hDynamic hReleased "result_value",
          ?_, fun other hValid => ?_⟩
      · have hOwn : ¬ (r.IsConstant ∨ sim.mode = .canonical) := by
          rw [hTracked]
          exact not_or.mpr ⟨hDynamic, ResultMode.noConfusion⟩
        rw [toffoli_morphism.run_eq,
          Request.run_releaseResult
            (Toffoli.perform_releaseResult r sim),
          if_neg hOwn, hRelease]
        rfl
      · rcases hLedger.exists_outcomeOf hValid with ⟨bit, hOther⟩
        change sim.areEqualResults r other = _ ∧
          sim.areEqualResults other r = _
        rw [Toffoli.areEqualResults_of_tracked hTracked,
          Toffoli.areEqualResults_of_tracked hTracked]
        exact compareOutcomes_of_released hDynamic hReleased hOther
  | tracer t => exact hTracks.elim
  | stub s => exact hTracks.elim

/-
  A result whose release was just accepted was handed out and is
  dead.
-/
theorem released_of_accepted
    {history : List (Exchange R)}
    (hHistory : b.HasHistory history)
    (hTracks : b.Tracks)
    (hDynamic : ¬ r.IsConstant)
    {reply : Reply}
    (hAccepted :
      ((Request.releaseResult r).run.perform b).1 = .ok reply) :
    let after := ((Request.releaseResult r).run.perform b).2
    after.outcomes.Issued r ∧ ¬ after.outcomes.Live r := by
  intro after
  have hLedger := hHistory.ledger
  have hStep :=
    outcomeStep hHistory.reachable.sound (.releaseResult r)
  have hLive := live_of_released hTracks hDynamic hAccepted
  rcases (b.outcomes.live_iff r).mp hLive with ⟨bit, hBit⟩
  refine
    ⟨hStep.issued hLedger.coherent
      (HandleTable.issued_of_get?_eq_some _ hBit), ?_⟩
  rw [(hLedger.step hStep).live_iff, hAccepted,
    Owes.append_singleton_iff]
  simp

end

------------------------------------------------------------
-- Recorded outcomes
------------------------------------------------------------

/-
  In every state that a simulator can get into: a measurement is
  answered with a result that is read as the outcome from then
  on, until its release is accepted, and where results are
  tracked it was never handed out before. Constants are read as
  what they stand for. Results that may be used are compared by
  their outcomes, and reading one is comparing it with one.
  Where results are tracked, one that was released is refused as
  such ever after. Releasing a constant changes nothing.
-/
theorem recorded_outcomes_never_change
    (b : Builtin R)
    (history : List (Exchange R))
    (hHistory : b.HasHistory history) :
    (∀ bases targets r,
      ((Request.measure bases targets).run.perform b).1 =
          .ok (.result r) →
        (∃ bit,
          b.outcome bases targets = some bit ∧
            ∀ later b',
              Continues
                  ((Request.measure bases targets).run.perform b).2
                  later b' →
                (r.IsConstant ∨
                    ∀ event ∈ later, ¬ event.Ends (.result r)) →
                  Backend.resultValue b' r = .ok bit) ∧
          (b.Tracks →
            ResultId.firstDynamic ≤ r.raw ∧
              ∀ event ∈ history, ¬ event.Creates (.result r))) ∧
      Backend.resultValue b ResultId.zero = .ok false ∧
      Backend.resultValue b ResultId.one = .ok true ∧
      (∀ r₁ r₂,
        ResultId.Valid history r₁ →
          ResultId.Valid history r₂ →
            ∃ bit₁ bit₂,
              Backend.resultValue b r₁ = .ok bit₁ ∧
                Backend.resultValue b r₂ = .ok bit₂ ∧
                Backend.areEqualResults b r₁ r₂ =
                  .ok (bit₁ = bit₂)) ∧
      (∀ r,
        ResultId.Valid history r →
          Backend.resultValue b r =
            Backend.areEqualResults b r (Backend.oneResult b)) ∧
      (b.Tracks →
        ∀ r reply,
          ¬ r.IsConstant →
            ((Request.releaseResult r).run.perform b).1 =
                .ok reply →
              ∀ later b',
                Continues
                    ((Request.releaseResult r).run.perform b).2
                    later b' →
                  b'.RejectsReleased
                    (history ++
                      (.releaseResult r, .ok reply) :: later) r) ∧
      ∀ r,
        r.IsConstant →
          (Request.releaseResult r).run.perform b =
            (.ok .done, b) := by
  have hSimulator := hHistory.kind_ne_stub
  have hSound := hHistory.reachable.sound
  have hLedger := hHistory.ledger
  refine ⟨?_, ?_, ?_, ?_, ?_, ?_, ?_⟩
  · intro bases targets r hMeasured
    rcases exists_outcome hLedger hMeasured with
      ⟨bit, hOutcome, hRecorded⟩
    refine ⟨⟨bit, hOutcome, ?_⟩, ?_⟩
    · intro later b' hContinues hKept
      have hNext := hHistory.request (.measure bases targets)
      exact resultValue_eq
        (hContinues.hasHistory hNext).kind_ne_stub
        (hContinues.outcomeOf_eq hNext hRecorded hKept)
    · intro hTracks
      rcases exists_insert_of_measured hTracks hMeasured with
        ⟨own, rfl⟩
      exact
        ⟨Nat.not_lt.mp (hLedger.not_isConstant_insert_fst own),
          hLedger.not_created_insert_fst own⟩
  · exact resultValue_eq hSimulator (outcomeOf_ofBool _ false)
  · exact resultValue_eq hSimulator (outcomeOf_ofBool _ true)
  · intro r₁ r₂ hValid₁ hValid₂
    rcases hLedger.exists_outcomeOf hValid₁ with ⟨bit₁, hFirst⟩
    rcases hLedger.exists_outcomeOf hValid₂ with ⟨bit₂, hSecond⟩
    exact ⟨bit₁, bit₂, resultValue_eq hSimulator hFirst,
      resultValue_eq hSimulator hSecond,
      areEqualResults_eq hSimulator hSound hFirst hSecond⟩
  · intro r hValid
    rcases hLedger.exists_outcomeOf hValid with ⟨bit, hOutcome⟩
    have hOne : Backend.oneResult b = ResultId.ofBool true := by
      cases b <;> rfl
    rw [resultValue_eq hSimulator hOutcome, hOne,
      areEqualResults_eq hSimulator hSound hOutcome
        (outcomeOf_ofBool _ true)]
    simp
  · intro hTracks r reply hDynamic hAccepted later b' hContinues
    have hNext := hHistory.request (.releaseResult r)
    have hNow := hContinues.hasHistory hNext
    rw [hAccepted, List.append_assoc, List.singleton_append] at hNow
    refine rejectsReleased
      (hContinues.tracks ((tracks_run_iff _ b).mpr hTracks))
      hNow.ledger hDynamic ?_
    exact hContinues.stays_released hNext
      (released_of_accepted hHistory hTracks hDynamic hAccepted)
  · intro r hConstant
    exact perform_releaseResult_of_isConstant hSimulator hConstant

/-
  A bit that was measured as one is still read as one after its
  qubit was released, the next qubit was measured as zero and
  the result of that was released. The latter is refused, also
  when it is compared with the former.
-/
theorem measured_one_outlives_qubit :
    let b : Builtin Float :=
      (runRequests (.toffoli (.start .tracked) : Builtin Float)
        [.allocateQubit, .apply .x ⟨0⟩]).2
    let measured : Request Float := .measure [.z] [⟨0⟩]
    let after := (measured.run.perform b).2
    let later : List (Request Float) :=
      [.releaseQubit ⟨0⟩, .allocateQubit, .measure [.z] [⟨1⟩]]
    let last := (runRequests after later).2
    let released : Request Float := .releaseResult ⟨3⟩
    (measured.run.perform b).1 = .ok (.result ⟨2⟩) ∧
      Backend.resultValue last ⟨2⟩ = .ok true ∧
      Backend.areEqualResults (released.run.perform last).2 ⟨2⟩ ⟨3⟩ =
        .error (.contractViolation "result_equal" (.result ⟨3⟩)
          .released) := by
  intro b measured after later last released
  have hHistory :=
    HasHistory.run (R := Float) (.toffoli _ (.start .tracked))
      [.allocateQubit, .apply .x ⟨0⟩]
  have hMeasured : (measured.run.perform b).1 = .ok (.result ⟨2⟩) := rfl
  refine ⟨hMeasured, ?_, ?_⟩
  · rcases
        ((recorded_outcomes_never_change b _ hHistory).1 [.z] [⟨0⟩]
          ⟨2⟩ hMeasured).1 with
      ⟨bit, hOutcome, hRead⟩
    have hTrue : b.outcome [.z] [⟨0⟩] = some true := rfl
    rw [hTrue] at hOutcome
    cases hOutcome
    refine hRead _ last (.of_run after later) (.inr ?_)
    rintro event hMem ⟨reply, rfl⟩
    have hAsked := (List.of_mem_zip hMem).1
    simp [later] at hAsked
  · have hLast := (hHistory.request measured).run later
    have hRejects :=
      (recorded_outcomes_never_change last _ hLast).2.2.2.2.2.1 rfl
        ⟨3⟩ .done (by decide) rfl [] _ .here
    have hLive :
        (released.run.perform last).2.outcomes.Live ⟨2⟩ := rfl
    have hOwes := ((hLast.request released).ledger.live_iff _).mp hLive
    exact (hRejects.2.2 ⟨2⟩ (.inr hOwes.2)).2

end Builtin

end QuantumRuntime

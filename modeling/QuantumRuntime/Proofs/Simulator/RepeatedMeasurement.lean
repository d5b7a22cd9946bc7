import QuantumRuntime.Proofs.Simulator.ActiveControls
import QuantumRuntime.Proofs.Simulator.AdjointCircuits
import QuantumRuntime.Proofs.Simulator.PossibleOutcomes
import QuantumRuntime.Proofs.Simulator.RecordedOutcomes

/-
  This file proves that a measurement can be repeated: measuring
  a qubit again in the same basis gives the same outcome and
  leaves the state as it is, when the arithmetic is exact. The
  first measurement makes the outcome certain in the turned
  state, turning the basis back is undone by turning it again,
  and a collapse onto a certain outcome changes nothing.

  Key definitions include:
    * `StateVector.Certain`
    * `FullState.CertainIn`
    * `FullState.Records`

  Key theorems include:
    * `StateVector.certain_collapse`
    * `StateVector.Certain.collapse_eq`
    * `FullState.turnedTo_turnedFrom`
    * `FullState.turnedFrom_turnedTo`
    * `FullState.Normalized.certainIn_measured`
    * `FullState.CertainIn.perform_measureAt`
    * `FullState.measurement_is_repeatable`
-/

namespace QuantumRuntime

------------------------------------------------------------
-- Certain outcomes
------------------------------------------------------------

namespace StateVector

variable {s : StateVector ℝ} {position : Nat} {bit : Bool}

/-
  The qubit at a position has an outcome for certain: the whole
  weight, which is one, lies where its bit is the outcome.
-/
structure Certain
    (position : Nat)
    (bit : Bool)
    (s : StateVector ℝ) : Prop where
  settled : s.Settled position bit
  weight_eq : s.totalWeight = 1

/- Zero is scaled to zero by any norm. -/
theorem normalized_zero
    (norm : ℝ) :
    normalized norm 0 = 0 := by
  unfold normalized
  split
  · exact Amplitude.ext_parts (zero_div norm) (zero_div norm)
  · rfl

/- The norm one scales nothing. -/
theorem normalized_one
    (a : Amplitude ℝ) :
    normalized 1 a = a := by
  unfold normalized
  split
  · exact a.divScalar_one
  · rfl

/- A collapse onto an outcome with weight makes it certain. -/
theorem certain_collapse
    (hWeight : 0 < s.branchWeight position bit) :
    (s.collapse position bit).Certain position bit where
  settled := by
    intro i hIndex hBit
    rw [qubitCount_collapse] at hIndex
    rw [amplitude_collapse _ _ _ hIndex, if_neg hBit,
      normalized_zero]
  weight_eq := totalWeight_collapse hWeight

namespace Certain

/- The other outcome has no weight. -/
theorem branchWeight_not
    (hCertain : s.Certain position bit) :
    s.branchWeight position (!bit) = 0 := by
  rw [branchWeight_eq_sum]
  apply Finset.sum_eq_zero
  intro i hMem
  split
  · next hBit =>
      have hOther : i.testBit position ≠ bit := by
        rw [hBit]
        exact Bool.not_ne_self bit
      rw [hCertain.settled i (Finset.mem_range.mp hMem) hOther,
        Amplitude.normSq_zero]
  · rfl

/- The certain outcome has all of it. -/
theorem branchWeight_eq
    (hCertain : s.Certain position bit) :
    s.branchWeight position bit = 1 := by
  have hTotal := hCertain.weight_eq
  have hOther := hCertain.branchWeight_not
  rw [totalWeight_eq_branches position] at hTotal
  cases bit with
  | false =>
      rw [Bool.not_false] at hOther
      linarith
  | true =>
      rw [Bool.not_true] at hOther
      linarith

/- A collapse onto a certain outcome changes nothing. -/
theorem collapse_eq
    (hCertain : s.Certain position bit) :
    s.collapse position bit = s := by
  apply ext_amplitude (by simp)
  intro i hIndex
  rw [qubitCount_collapse] at hIndex
  have hNorm :
      Scalar.sqrt (s.branchWeight position bit) = (1 : ℝ) := by
    rw [hCertain.branchWeight_eq]
    exact Real.sqrt_one
  rw [amplitude_collapse _ _ _ hIndex, hNorm, normalized_one,
    ite_eq_left_iff]
  intro hBit
  exact (hCertain.settled i hIndex hBit).symm

end Certain

end StateVector

namespace FullState

------------------------------------------------------------
-- Turning a basis there and back
------------------------------------------------------------

section

variable {sim : FullState ℝ} {position : Nat}

/- A gate on a simulator is undone by the adjoint gate. -/
theorem applied_adjoint
    (g : Gate ℝ)
    (mask : Nat)
    (hPosition : position < sim.state.qubitCount) :
    (sim.applied g mask position).applied g.adjoint mask
        position =
      sim := by
  unfold applied
  dsimp only
  rw [StateVector.applyGate_adjoint g mask sim.state hPosition]

/- So are two gates, the last one first. -/
theorem applied_applied_adjoint
    (g g' : Gate ℝ)
    (mask : Nat)
    (hPosition : position < sim.state.qubitCount) :
    (((sim.applied g mask position).applied g' mask
          position).applied g'.adjoint mask position).applied
        g.adjoint mask position =
      sim := by
  have hBetween :
      position <
        (sim.applied g mask position).state.qubitCount := by
    simpa [applied] using hPosition
  rw [applied_adjoint g' mask hBetween,
    applied_adjoint g mask hPosition]

/- A basis that was turned back is turned again. -/
theorem turnedTo_turnedFrom
    (basis : Pauli)
    (hPosition : position < sim.state.qubitCount) :
    (sim.turnedFrom basis position).turnedTo basis position =
      sim := by
  cases basis with
  | i | z => rfl
  | x => exact applied_adjoint .h 0 hPosition
  | y => exact applied_applied_adjoint .h .s 0 hPosition

/- A basis that was turned is turned back. -/
theorem turnedFrom_turnedTo
    (basis : Pauli)
    (hPosition : position < sim.state.qubitCount) :
    (sim.turnedTo basis position).turnedFrom basis position =
      sim := by
  cases basis with
  | i | z => rfl
  | x => exact applied_adjoint .h 0 hPosition
  | y => exact applied_applied_adjoint .sdg .h 0 hPosition

------------------------------------------------------------
-- Measuring again
------------------------------------------------------------

variable {after : FullState ℝ} {order : List QubitId}
variable {q : QubitId} {basis : Pauli} {bit : Bool}

/- Measuring a position in a basis has an outcome for certain. -/
def CertainIn
    (basis : Pauli)
    (position : Nat)
    (bit : Bool)
    (sim : FullState ℝ) : Prop :=
  (sim.turnedTo basis position).state.Certain position bit

/- A measurement makes the outcome that it had certain. -/
theorem Normalized.certainIn_measured
    (hNormalized : sim.Normalized order)
    (hLive : sim.qubits.get? q = some position)
    (hBasis : basis ≠ .i)
    (hMeasured :
      (measureAt position basis).perform sim = (.ok bit, after)) :
    after.CertainIn basis position bit := by
  have hPosition := hNormalized.dense.position_lt hLive
  have hPicks := hNormalized.picksPossible hLive basis
  rw [perform_measureAt_turned hBasis] at hMeasured
  cases hMeasured
  rw [CertainIn, turnedTo_turnedFrom basis
    (by simpa [collapsed] using hPosition)]
  exact StateVector.certain_collapse hPicks.1

/- Every draw in the unit interval finds a certain outcome. -/
theorem nextOutcome_of_certain
    (hCertain : sim.state.Certain position bit)
    (hDraws : sim.DrawsInUnit) :
    sim.nextOutcome position = bit := by
  rcases hDraws sim.drawn with ⟨hLow, hHigh⟩
  cases bit with
  | false =>
      have hNone : sim.state.probabilityOne position = 0 :=
        hCertain.branchWeight_not
      rw [nextOutcome, hNone]
      exact decide_eq_false (not_lt.mpr hLow)
  | true =>
      have hAll : sim.state.probabilityOne position = 1 :=
        hCertain.branchWeight_eq
      rw [nextOutcome, hAll]
      exact decide_eq_true hHigh

/- The count of draws plays no part in turning a basis back. -/
theorem turnedFrom_withDrawn
    (drawn : Nat) :
    ({ sim with drawn := drawn } : FullState ℝ).turnedFrom basis
        position =
      { sim.turnedFrom basis position with drawn := drawn } := by
  cases basis <;> rfl

theorem drawn_turnedTo
    (basis : Pauli)
    (position : Nat)
    (sim : FullState ℝ) :
    (sim.turnedTo basis position).drawn = sim.drawn := by
  cases basis <;> rfl

/-
  A measurement in a basis in which the outcome is certain has
  that outcome and takes a draw, and nothing else is changed.
-/
theorem CertainIn.perform_measureAt
    (hCertain : sim.CertainIn basis position bit)
    (hDraws : sim.DrawsInUnit)
    (hBasis : basis ≠ .i)
    (hPosition : position < sim.state.qubitCount) :
    (measureAt position basis).perform sim =
      (.ok bit, { sim with drawn := sim.drawn + 1 }) := by
  have hTurned : (sim.turnedTo basis position).DrawsInUnit := by
    intro n
    rw [draws_turnedTo]
    exact hDraws n
  have hOutcome := nextOutcome_of_certain hCertain hTurned
  have hCollapsed :
      (sim.turnedTo basis position).collapsed position =
        { sim.turnedTo basis position with
          drawn := sim.drawn + 1 } := by
    unfold collapsed
    rw [hOutcome, hCertain.collapse_eq, drawn_turnedTo]
  rw [perform_measureAt_turned hBasis, hOutcome, hCollapsed,
    turnedFrom_withDrawn, turnedFrom_turnedTo basis hPosition]

end

------------------------------------------------------------
-- Records
------------------------------------------------------------

section

variable {R : Type} [Scalar R]

/- The result under which the next outcome is recorded. -/
def nextResult
    (bit : Bool)
    (sim : FullState R) : ResultId :=
  (sim.results.insert bit).1

/- The simulator after an outcome was recorded. -/
def recorded
    (bit : Bool)
    (sim : FullState R) : FullState R :=
  { sim with
    results :=
      (sim.results.insert bit :
        ResultId × HandleTable ResultId Bool).2 }

/-
  Measuring a qubit in a basis is answered with a result, which
  is then read as the outcome.
-/
structure Records
    (basis : Pauli)
    (q : QubitId)
    (bit : Bool)
    (sim : FullState R)
    (r : ResultId)
    (after : FullState R) : Prop where
  perform_eq :
    (Request.measure [basis] [q]).run.perform sim =
      (.ok (.result r), after)
  value_eq :
    Backend.resultValue after r = .ok bit

variable {sim after : FullState R} {history : List (Exchange R)}
variable {bit : Bool}

/- A measurement records its outcome under the next result. -/
theorem records_of_measureAt
    (hLedger : Ledger history after.results)
    {q : QubitId}
    {position : Nat}
    (hLive : sim.qubits.get? q = some position)
    {basis : Pauli}
    (hMeasured :
      (measureAt position basis).perform sim = (.ok bit, after)) :
    Records basis q bit sim (after.nextResult bit)
      (after.recorded bit) where
  perform_eq :=
    Request.run_measure
      (perform_measure_of_live rfl hLive hMeasured)
  value_eq :=
    readOutcome_of_outcomeOf (hLedger.outcomeOf_insert bit)
      "result_value"

omit [Scalar R] in
/- Two records of one outcome, made in turn, are equal. -/
theorem areEqualResults_recorded
    (hLedger : Ledger history sim.results)
    (hResults : after.results = (sim.recorded bit).results) :
    (after.recorded bit).areEqualResults (sim.nextResult bit)
        (after.nextResult bit) =
      .ok true := by
  have hNext : Ledger _ (sim.recorded bit).results :=
    hLedger.recorded [] [] bit
  have hFirst :
      outcomeOf (sim.recorded bit).results (sim.nextResult bit) =
        some bit :=
    hLedger.outcomeOf_insert bit
  rw [← hResults] at hNext hFirst
  have hStep : OutcomeStep (R := R) after.results _ _ :=
    .recorded [] [] bit
  have hKept := hStep.outcomeOf_eq hNext.coherent hFirst
    (Or.inr (Exchange.not_ends_measure _ _ _ _))
  have hEqual :=
    compareOutcomes_of_outcomeOf hKept (hNext.outcomeOf_insert bit)
  rw [decide_eq_true rfl] at hEqual
  exact hEqual

/- The outcomes of a run are a ledger of some history. -/
theorem exists_ledger
    {init : FullState R}
    (hFresh : init.Fresh)
    (requests : List (Request R)) :
    ∃ history : List (Exchange R),
      Ledger history (runRequests init requests).2.results := by
  have hHistory :=
    (Builtin.HasHistory.fullState init hFresh).run requests
  rw [Builtin.fullState_morphism.runRequests_eq] at hHistory
  exact ⟨_, hHistory.ledger⟩

end

/- A record leaves alone what is certain in the state. -/
theorem certainIn_recorded_iff
    {sim : FullState ℝ}
    {basis : Pauli}
    {position : Nat}
    {bit : Bool}
    (other : Bool) :
    (sim.recorded other).CertainIn basis position bit ↔
      sim.CertainIn basis position bit := by
  cases basis <;> rfl

/-
  In every state that a run reaches, a live qubit that is
  measured twice in the same basis gives the same outcome both
  times, whatever the two draws are, and the second measurement
  leaves the state vector as it is. The outcome is the one that
  the first draw gives in the turned state. In the trivial basis
  it is zero, no draw is taken and the state vector stays.
-/
theorem measurement_is_repeatable
    {init : FullState ℝ}
    (hFresh : init.Fresh)
    (hDraws : init.DrawsInUnit)
    (requests : List (Request ℝ))
    {q : QubitId}
    {position : Nat}
    (hLive :
      (runRequests init requests).2.qubits.get? q =
        some position) :
    let sim := (runRequests init requests).2
    (∀ basis, basis ≠ .i →
      let bit := (sim.turnedTo basis position).nextOutcome position
      ∃ r₁ r₂ once twice,
        Records basis q bit sim r₁ once ∧
          Records basis q bit once r₂ twice ∧
          Backend.areEqualResults twice r₁ r₂ = .ok true ∧
          once.drawn = sim.drawn + 1 ∧
          twice.drawn = sim.drawn + 2 ∧
          twice.state = once.state) ∧
      ∃ r after,
        Records .i q false sim r after ∧
          after.drawn = sim.drawn ∧
          after.state = sim.state := by
  intro sim
  have hNormalized :=
    (Normalized.of_fresh hFresh hDraws).run requests
  rcases exists_ledger hFresh requests with ⟨history, hLedger⟩
  constructor
  · intro basis hBasis bit
    rcases sim.perform_measureAt position basis with
      ⟨outcome, state, hMeasured, hCount⟩
    have hTurned := perform_measureAt_turned hBasis position sim
    have hBit : outcome = bit :=
      Except.ok.inj
        (congrArg Prod.fst (hMeasured.symm.trans hTurned))
    rw [if_neg hBasis, hBit] at hMeasured
    let measured : FullState ℝ :=
      { sim with state := state, drawn := sim.drawn + 1 }
    let once := measured.recorded bit
    let again := { once with drawn := once.drawn + 1 }
    have hCertain : once.CertainIn basis position bit :=
      (certainIn_recorded_iff bit).mpr
        (hNormalized.certainIn_measured hLive hBasis hMeasured)
    have hAgain :
        (measureAt position basis).perform once =
          (.ok bit, again) :=
      hCertain.perform_measureAt hNormalized.draws_unit hBasis
        (hCount ▸ hNormalized.dense.position_lt hLive)
    have hStill : once.qubits.get? q = some position := hLive
    have hBefore : Ledger history measured.results := hLedger
    have hBetween : Ledger _ again.results :=
      hLedger.recorded [basis] [q] bit
    exact ⟨measured.nextResult bit, again.nextResult bit, once,
      again.recorded bit,
      records_of_measureAt hBefore hLive hMeasured,
      records_of_measureAt hBetween hStill hAgain,
      areEqualResults_recorded hBefore rfl, rfl, rfl, rfl⟩
  · exact ⟨_, _, records_of_measureAt hLedger hLive rfl, rfl, rfl⟩

/-
  A qubit of an entangled pair is measured twice in a turned
  basis, or once in the trivial one.
-/
theorem entangled_qubit_is_measured_twice :
    let init : FullState ℝ := .start fun _ => 0
    let requests : List (Request ℝ) :=
      [.allocateQubit, .allocateQubit, .apply .h ⟨0⟩,
        .applyControlled .x [⟨0⟩] ⟨1⟩]
    let sim := (runRequests init requests).2
    init.Fresh ∧
      init.DrawsInUnit ∧
      sim.qubits.get? ⟨0⟩ = some 0 ∧
      (∃ bit r₁ r₂ once twice,
        Records .y ⟨0⟩ bit sim r₁ once ∧
          Records .y ⟨0⟩ bit once r₂ twice ∧
          twice.drawn = 2 ∧
          twice.state = once.state) ∧
      ∃ r after,
        Records .i ⟨0⟩ false sim r after ∧
          after.state = sim.state := by
  intro init requests sim
  have hFresh : init.Fresh := .start _
  have hDraws : init.DrawsInUnit :=
    fun _ => ⟨le_refl 0, zero_lt_one⟩
  have hLive : sim.qubits.get? ⟨0⟩ = some 0 := rfl
  rcases measurement_is_repeatable hFresh hDraws requests hLive
    with ⟨hBases, r, after, hTrivial, -, hState⟩
  rcases hBases .y nofun with
    ⟨r₁, r₂, once, twice, hFirst, hSecond, -, -, hDrawn, hSame⟩
  exact
    ⟨hFresh, hDraws, hLive,
      ⟨_, r₁, r₂, once, twice, hFirst, hSecond, hDrawn, hSame⟩,
      r, after, hTrivial, hState⟩

end FullState

end QuantumRuntime

import QuantumRuntime.Proofs.Simulator.Fresh
import QuantumRuntime.Proofs.Simulator.Positions
import QuantumRuntime.Proofs.Simulator.Weights

/-
  This file proves that the simulator of the full state never
  collapses onto an impossible outcome when its arithmetic is
  exact. Every request keeps the total weight at one, so the two
  outcomes of a measurement have weights that add up to one, and
  a draw below one but not below zero cannot pick an outcome of
  weight zero.

  Key definitions include:
    * `FullState.turnedTo`
    * `FullState.turnedFrom`
    * `FullState.PicksPossible`
    * `FullState.Normalized`

  Key theorems include:
    * `FullState.perform_measureAt_turned`
    * `FullState.Normalized.picksPossible`
    * `FullState.Normalized.step`
    * `FullState.collapses_are_possible`
-/

namespace QuantumRuntime

namespace FullState

------------------------------------------------------------
-- Bases
------------------------------------------------------------

section

variable {R : Type} [Scalar R]

/- The simulator after a basis was turned to the computational one. -/
def turnedTo
    (basis : Pauli)
    (position : Nat)
    (sim : FullState R) : FullState R :=
  match basis with
  | .i | .z => sim
  | .x => sim.applied .h 0 position
  | .y => (sim.applied .sdg 0 position).applied .h 0 position

/- The simulator after a basis was turned back. -/
def turnedFrom
    (basis : Pauli)
    (position : Nat)
    (sim : FullState R) : FullState R :=
  match basis with
  | .i | .z => sim
  | .x => sim.applied .h 0 position
  | .y => (sim.applied .h 0 position).applied .s 0 position

/-
  Measuring in a basis turns it to the computational one,
  collapses the state there and turns back.
-/
theorem perform_measureAt_turned
    {basis : Pauli}
    (hBasis : basis ≠ .i)
    (position : Nat)
    (sim : FullState R) :
    (measureAt position basis).perform sim =
      (.ok ((sim.turnedTo basis position).nextOutcome position),
        ((sim.turnedTo basis position).collapsed
          position).turnedFrom basis position) := by
  cases basis with
  | i => exact absurd rfl hBasis
  | z => exact perform_measureBit position sim
  | x =>
      simp only [measureAt, Action.perform_bind,
        Action.perform_pure, perform_applyAt, perform_measureBit]
      rfl
  | y =>
      simp only [measureAt, Action.perform_bind,
        Action.perform_pure, perform_applyAt, perform_measureBit]
      rfl

@[simp] theorem qubitCount_turnedTo
    (basis : Pauli)
    (position : Nat)
    (sim : FullState R) :
    (sim.turnedTo basis position).state.qubitCount =
      sim.state.qubitCount := by
  cases basis <;> simp [turnedTo, applied]

@[simp] theorem draws_turnedTo
    (basis : Pauli)
    (position : Nat)
    (sim : FullState R) :
    (sim.turnedTo basis position).draws = sim.draws := by
  cases basis <;> rfl

end

------------------------------------------------------------
-- Outcomes
------------------------------------------------------------

/- Every draw lies in the unit interval, whose end is left out. -/
def DrawsInUnit
    (sim : FullState ℝ) : Prop :=
  ∀ n, 0 ≤ sim.draws n ∧ sim.draws n < 1

variable {sim sim' : FullState ℝ} {order : List QubitId}

/-
  The next draw picks an outcome that has weight, so that the
  collapse onto it divides by a positive norm.
-/
def PicksPossible
    (position : Nat)
    (sim : FullState ℝ) : Prop :=
  let weight :=
    sim.state.branchWeight position (sim.nextOutcome position)
  0 < weight ∧ 0 < Real.sqrt weight

/-
  The outcome that a draw picks has weight: one is picked by a
  draw below its weight, and zero by one that is not below the
  weight of one and is below the whole.
-/
theorem picksPossible_of_totalWeight
    (hWeight : sim.state.totalWeight = 1)
    (hDraws : sim.DrawsInUnit)
    (position : Nat) :
    sim.PicksPossible position := by
  rcases hDraws sim.drawn with ⟨hLow, hHigh⟩
  rw [StateVector.totalWeight_eq_branches position] at hWeight
  have hPositive :
      0 < sim.state.branchWeight position
        (sim.nextOutcome position) := by
    cases hOutcome : sim.nextOutcome position with
    | true =>
        have hBelow :
            sim.draws sim.drawn <
              sim.state.branchWeight position true :=
          of_decide_eq_true hOutcome
        exact lt_of_le_of_lt hLow hBelow
    | false =>
        have hAbove :
            sim.state.branchWeight position true ≤
              sim.draws sim.drawn :=
          not_lt.mp (of_decide_eq_false hOutcome)
        linarith
  exact ⟨hPositive, Real.sqrt_pos.mpr hPositive⟩

/- The weight of a state is not changed by a gate. -/
theorem totalWeight_applied
    {position : Nat}
    (hPosition : position < sim.state.qubitCount)
    (g : Gate ℝ)
    (mask : Nat) :
    (sim.applied g mask position).state.totalWeight =
      sim.state.totalWeight :=
  StateVector.totalWeight_applyGate g mask sim.state hPosition

/- The weight of a state is not changed by turning a basis. -/
theorem totalWeight_turnedTo
    {position : Nat}
    (hPosition : position < sim.state.qubitCount)
    (basis : Pauli) :
    (sim.turnedTo basis position).state.totalWeight =
      sim.state.totalWeight := by
  cases basis with
  | i | z => rfl
  | x => exact totalWeight_applied hPosition _ _
  | y =>
      have hNext :
          position <
            (sim.applied .sdg 0 position).state.qubitCount := by
        simpa [applied] using hPosition
      exact (totalWeight_applied hNext _ _).trans
        (totalWeight_applied hPosition _ _)

theorem totalWeight_turnedFrom
    {position : Nat}
    (hPosition : position < sim.state.qubitCount)
    (basis : Pauli) :
    (sim.turnedFrom basis position).state.totalWeight =
      sim.state.totalWeight := by
  cases basis with
  | i | z => rfl
  | x => exact totalWeight_applied hPosition _ _
  | y =>
      have hNext :
          position <
            (sim.applied .h 0 position).state.qubitCount := by
        simpa [applied] using hPosition
      exact (totalWeight_applied hNext _ _).trans
        (totalWeight_applied hPosition _ _)

------------------------------------------------------------
-- Normalized simulators
------------------------------------------------------------

/-
  The total weight is one, the draws lie in the unit interval
  and every live qubit has its own position.
-/
structure Normalized
    (sim : FullState ℝ)
    (order : List QubitId) : Prop where
  dense :
    sim.Dense order
  weight_eq :
    sim.state.totalWeight = 1
  draws_unit :
    sim.DrawsInUnit

namespace Normalized

/- A simulator that is fresh has weight one. -/
theorem of_fresh
    (hFresh : sim.Fresh)
    (hDraws : sim.DrawsInUnit) :
    sim.Normalized [] where
  dense := hFresh.untouched.dense
  weight_eq := by
    rw [hFresh.untouched.state_eq]
    exact StateVector.totalWeight_ground_zero
  draws_unit := hDraws

/-
  A measurement in a basis collapses the turned state onto an
  outcome that has weight.
-/
theorem picksPossible
    (hNormalized : sim.Normalized order)
    {q : QubitId}
    {position : Nat}
    (hLive : sim.qubits.get? q = some position)
    (basis : Pauli) :
    (sim.turnedTo basis position).PicksPossible position := by
  have hPosition := hNormalized.dense.position_lt hLive
  apply picksPossible_of_totalWeight
  · rw [totalWeight_turnedTo hPosition, hNormalized.weight_eq]
  · intro n
    rw [draws_turnedTo]
    exact hNormalized.draws_unit n

/- A measurement in any basis leaves total weight one. -/
theorem totalWeight_measured
    (hNormalized : sim.Normalized order)
    {q : QubitId}
    {position : Nat}
    (hLive : sim.qubits.get? q = some position)
    {basis : Pauli}
    {bit : Bool}
    (hMeasured :
      (measureAt position basis).perform sim = (.ok bit, sim')) :
    sim'.state.totalWeight = 1 := by
  by_cases hBasis : basis = .i
  · subst hBasis
    cases hMeasured
    exact hNormalized.weight_eq
  · have hPosition := hNormalized.dense.position_lt hLive
    rw [perform_measureAt_turned hBasis] at hMeasured
    cases hMeasured
    rw [totalWeight_turnedFrom
      (by simpa [collapsed] using hPosition)]
    exact StateVector.totalWeight_collapse
      (hNormalized.picksPossible hLive basis).1

/- Each request keeps the total weight at one. -/
theorem totalWeight_step
    {request : Request ℝ}
    {answer : Except BackendError Reply}
    (hNormalized : sim.Normalized order)
    (hEffect : sim.Effect request answer sim') :
    sim'.state.totalWeight = 1 := by
  have hWeight := hNormalized.weight_eq
  cases hEffect with
  | refused e => exact hWeight
  | allocated hRoom =>
      exact (StateVector.totalWeight_addQubit _).trans hWeight
  | released q position hLive =>
      exact totalWeight_compacted
        (hNormalized.dense.position_lt hLive)
        (hNormalized.picksPossible hLive .z).1
  | applied g target position hLive =>
      exact (totalWeight_applied
        (hNormalized.dense.position_lt hLive) g 0).trans hWeight
  | controlled g controls target mask position hLive =>
      exact (totalWeight_applied
        (hNormalized.dense.position_lt hLive) g mask).trans
        hWeight
  | measured bases targets basis target position bit state
      hSingle hLive hMeasured hCount =>
      have hState := hNormalized.totalWeight_measured hLive hMeasured
      exact hState
  | compared r₁ r₂ bit₁ bit₂ => exact hWeight
  | read r bit => exact hWeight
  | constantKept r => exact hWeight
  | resultReleased r bit => exact hWeight

/- Each request keeps the simulator normalized. -/
theorem step
    {request : Request ℝ}
    {answer : Except BackendError Reply}
    (hNormalized : sim.Normalized order)
    (hEffect : sim.Effect request answer sim') :
    sim'.Normalized (request.reorder order answer) where
  dense := hNormalized.dense.step hEffect
  weight_eq := hNormalized.totalWeight_step hEffect
  draws_unit := by
    intro n
    rw [hEffect.sameSettings.draws_eq]
    exact hNormalized.draws_unit n

/- Every run keeps the simulator normalized. -/
theorem run
    (hNormalized : sim.Normalized order)
    (requests : List (Request ℝ)) :
    (runRequests sim requests).2.Normalized
      (reorderAll order requests
        (runRequests sim requests).1) := by
  induction requests generalizing sim order with
  | nil => exact hNormalized
  | cons request rest ih =>
      exact ih (hNormalized.step (sim.effect request))

end Normalized

------------------------------------------------------------
-- Collapses
------------------------------------------------------------

/-
  After any run from a fresh simulator the squared moduli of the
  amplitudes add up to one, so the state is not zero. The next
  request that measures, be it a release or a measurement in a
  basis that is not trivial, collapses the state onto an outcome
  of positive weight and divides by a positive norm.
-/
theorem collapses_are_possible
    {init : FullState ℝ}
    (hFresh : init.Fresh)
    (hDraws : init.DrawsInUnit)
    (requests : List (Request ℝ)) :
    let sim := (runRequests init requests).2
    sim.state.totalWeight = 1 ∧
      (∃ i < 2 ^ sim.state.qubitCount,
        sim.state.amplitude i ≠ 0) ∧
      (∀ q position,
        sim.qubits.get? q = some position →
        (Request.releaseQubit q).run.perform sim =
            (.ok .done, sim.released q position) ∧
          sim.PicksPossible position) ∧
      ∀ bases targets basis q position,
        singleMeasurement sim.name bases targets =
          .ok (basis, q) →
        sim.qubits.get? q = some position →
        basis ≠ .i →
        let turned := sim.turnedTo basis position
        let after :=
          (turned.collapsed position).turnedFrom basis position
        let recorded :=
          (after.results.insert (turned.nextOutcome position) :
            ResultId × HandleTable ResultId Bool)
        (Request.measure bases targets).run.perform sim =
            (.ok (.result recorded.1),
              { after with results := recorded.2 }) ∧
          turned.PicksPossible position := by
  intro sim
  have hNormalized :=
    (Normalized.of_fresh hFresh hDraws).run requests
  refine ⟨hNormalized.weight_eq, ?_, ?_, ?_⟩
  · apply StateVector.exists_amplitude_ne_zero
    rw [hNormalized.weight_eq]
    exact one_ne_zero
  · intro q position hLive
    exact
      ⟨Request.run_releaseQubit
          (perform_releaseQubit_of_live hLive),
        hNormalized.picksPossible hLive .z⟩
  · intro bases targets basis q position hSingle hLive hBasis
    have hMeasured :=
      perform_measureAt_turned hBasis position sim
    exact
      ⟨Request.run_measure
          (perform_measure_of_live hSingle hLive hMeasured),
        hNormalized.picksPossible hLive basis⟩

/-
  A qubit of an entangled pair is measured in a turned basis
  with the lowest draw, and the other one is released.
-/
theorem entangled_pair_collapses :
    let init : FullState ℝ := .start fun _ => 0
    let requests : List (Request ℝ) :=
      [.allocateQubit, .allocateQubit, .apply .h ⟨0⟩,
        .applyControlled .x [⟨0⟩] ⟨1⟩]
    let sim := (runRequests init requests).2
    init.Fresh ∧
      init.DrawsInUnit ∧
      sim.state.totalWeight = 1 ∧
      sim.PicksPossible 1 ∧
      (sim.turnedTo .y 0).PicksPossible 0 := by
  intro init requests sim
  have hFresh : init.Fresh := .start _
  have hDraws : init.DrawsInUnit :=
    fun _ => ⟨le_refl 0, zero_lt_one⟩
  rcases collapses_are_possible hFresh hDraws requests with
    ⟨hWeight, -, hReleased, hMeasured⟩
  exact
    ⟨hFresh, hDraws, hWeight, (hReleased ⟨1⟩ 1 rfl).2,
      (hMeasured [.y] [⟨0⟩] .y ⟨0⟩ 0 rfl rfl nofun).2⟩

end FullState

end QuantumRuntime

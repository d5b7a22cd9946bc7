import QuantumRuntime.Proofs.Simulator.Positions

/-
  This file proves that releasing or allocating a qubit keeps
  the joint state of the other qubits. A release keeps the
  branch of its outcome, and a bit of an index means the same
  qubit before and after; an allocation only appends zeros. No
  law of the scalar arithmetic is used.

  Key definitions include:
    * `FullState.LeftByRelease`
    * `FullState.LeftByAllocation`

  Key theorems include:
    * `FullState.amplitude_compacted`
    * `FullState.testBit_insertBit_of_ne`
    * `FullState.other_qubits_keep_joint_state`
-/

namespace QuantumRuntime

namespace FullState

variable {R : Type} [Scalar R]

------------------------------------------------------------
-- Compaction
------------------------------------------------------------

/-
  An amplitude of the compacted state is the amplitude of the
  branch of the outcome, scaled by the norm of the branch.
-/
theorem amplitude_compacted
    {sim : FullState R}
    {position : Nat}
    {outcome : Bool}
    (hOutcome : sim.nextOutcome position = outcome)
    (hPosition : position < sim.state.qubitCount)
    {j : Nat}
    (hIndex : j < 2 ^ (sim.state.qubitCount - 1)) :
    (sim.compacted position).amplitude j =
      StateVector.normalized
        (Scalar.sqrt (sim.state.branchWeight position outcome))
        (sim.state.amplitude (insertBit position outcome j)) := by
  unfold compacted
  dsimp only
  rw [hOutcome, StateVector.amplitude_removeQubit_settled _
      (by simpa using hPosition) _ (by simpa using hIndex),
    StateVector.amplitude_collapse _ _ _
      (insertBit_lt hPosition outcome hIndex),
    if_pos (by simp)]

/-
  The bit of another qubit in an index of the old state is its
  bit, at the lowered position, in the index of the new one.
-/
theorem testBit_insertBit_of_ne
    {removed old : Nat}
    (hOther : old ≠ removed)
    (outcome : Bool)
    (j : Nat) :
    (insertBit removed outcome j).testBit old =
      j.testBit (lowerAbove removed old) := by
  rw [testBit_insertBit, lowerAbove]
  by_cases hBelow : old < removed
  · rw [if_pos hBelow, if_neg (by omega)]
  · rw [if_neg hBelow, if_neg hOther, if_pos (by omega)]

------------------------------------------------------------
-- The other qubits
------------------------------------------------------------

/-
  How a simulator relates to the one before the qubit at a
  position was released with some outcome.
-/
structure LeftByRelease
    (sim : FullState R)
    (q : QubitId)
    (position : Nat)
    (outcome : Bool)
    (sim' : FullState R) : Prop where
  size_eq :
    sim'.state.amplitudes.size = 2 ^ (sim.qubits.liveCount - 1)
  amplitude_eq :
    ∀ j, j < 2 ^ (sim.qubits.liveCount - 1) →
      sim'.state.amplitude j =
        StateVector.normalized
          (Scalar.sqrt
            (((List.range (2 ^ sim.qubits.liveCount)).filter
                fun i => i.testBit position = outcome).foldl
              (fun sum i => sum + (sim.state.amplitude i).normSq)
              0))
          (sim.state.amplitude (insertBit position outcome j))
  testBit_eq :
    ∀ r old, r ≠ q → sim.qubits.get? r = some old →
      ∃ new, sim'.qubits.get? r = some new ∧
        ∀ j, (insertBit position outcome j).testBit old =
          j.testBit new
  live_iff :
    ∀ r, sim'.qubits.Live r ↔ r ≠ q ∧ sim.qubits.Live r
  results_eq :
    sim'.results = sim.results
  drawn_eq :
    sim'.drawn = sim.drawn + 1
  settings :
    sim.SameSettings sim'

/-
  How a simulator relates to the one before a qubit was
  allocated.
-/
structure LeftByAllocation
    (sim : FullState R)
    (q : QubitId)
    (sim' : FullState R) : Prop where
  size_eq :
    sim'.state.amplitudes.size = 2 ^ (sim.qubits.liveCount + 1)
  amplitude_eq :
    ∀ i, i < 2 ^ sim.qubits.liveCount →
      sim'.state.amplitude i = sim.state.amplitude i
  amplitude_eq_zero :
    ∀ i, 2 ^ sim.qubits.liveCount ≤ i →
      sim'.state.amplitude i = 0
  dead_before :
    sim.qubits.get? q = none
  get?_eq :
    ∀ r, sim'.qubits.get? r =
      if r = q then
        some sim.qubits.liveCount
      else
        sim.qubits.get? r
  results_eq :
    sim'.results = sim.results
  drawn_eq :
    sim'.drawn = sim.drawn
  settings :
    sim.SameSettings sim'

/- A release keeps the branch of its outcome. -/
theorem Dense.leftByRelease
    {sim : FullState R}
    {order : List QubitId}
    (hDense : sim.Dense order)
    {q : QubitId}
    {position : Nat}
    (hLive : sim.qubits.get? q = some position)
    {outcome : Bool}
    (hOutcome : sim.nextOutcome position = outcome) :
    sim.LeftByRelease q position outcome
      (sim.released q position) := by
  have hPosition := hDense.position_lt hLive
  have hCount := hDense.qubitCount_eq_liveCount
  have hGet := get?_qubits_released hLive
  refine
    { size_eq := ?_
      amplitude_eq := ?_
      testBit_eq := ?_
      live_iff := ?_
      results_eq := rfl
      drawn_eq := rfl
      settings := Effect.sameSettings (.released q position hLive) }
  · rw [StateVector.size_amplitudes, ← hCount]
    exact congrArg (2 ^ ·) (qubitCount_compacted position sim)
  · intro j hIndex
    rw [← hCount] at hIndex ⊢
    rw [← StateVector.branchWeight_eq_foldl]
    exact amplitude_compacted hOutcome hPosition hIndex
  · intro r old hOther hOld
    refine ⟨lowerAbove position old, ?_, ?_⟩
    · rw [hGet, if_neg hOther, hOld]
      rfl
    · intro j
      apply testBit_insertBit_of_ne
      rintro rfl
      exact hOther (hDense.eq_of_position hOld hLive)
  · intro r
    unfold HandleTable.Live
    rw [hGet]
    by_cases hKey : r = q <;> simp [hKey]

/- An allocation appends zeros. -/
theorem Dense.leftByAllocation
    {sim : FullState R}
    {order : List QubitId}
    (hDense : sim.Dense order)
    (hRoom : sim.qubits.liveCount < sim.maxQubits) :
    sim.LeftByAllocation sim.nextQubit sim.allocated := by
  have hCount := hDense.qubitCount_eq_liveCount
  refine
    { size_eq := ?_
      amplitude_eq := fun i _ => sim.state.amplitude_addQubit i
      amplitude_eq_zero := ?_
      dead_before := hDense.coherent.get?_insert_fst _
      get?_eq := ?_
      results_eq := rfl
      drawn_eq := rfl
      settings := Effect.sameSettings (.allocated hRoom) }
  · rw [StateVector.size_amplitudes, ← hCount]
    rfl
  · intro i hIndex
    rw [← hCount] at hIndex
    exact (sim.state.amplitude_addQubit i).trans
      (sim.state.amplitude_of_le hIndex)
  · intro r
    rw [← hCount]
    exact hDense.coherent.get?_insert _ r

/-
  In every state that a run reaches, releasing a live qubit
  succeeds and keeps the joint state of the others in the
  branch of the outcome, and allocating a qubit below the limit
  succeeds and keeps the joint state of all.
-/
theorem other_qubits_keep_joint_state
    {init : FullState R}
    (hFresh : init.Fresh)
    (requests : List (Request R)) :
    let sim := (runRequests init requests).2
    (∀ q position, sim.qubits.get? q = some position →
      ∀ outcome, sim.nextOutcome position = outcome →
        ∃ sim',
          (Request.releaseQubit q).run.perform sim =
              (.ok .done, sim') ∧
            sim.LeftByRelease q position outcome sim') ∧
      (sim.qubits.liveCount < sim.maxQubits →
        ∃ q sim',
          (Request.allocateQubit : Request R).run.perform sim =
              (.ok (.qubit q), sim') ∧
            sim.LeftByAllocation q sim') := by
  intro sim
  have hDense := hFresh.untouched.dense.run requests
  constructor
  · intro q position hLive outcome hOutcome
    refine ⟨sim.released q position, ?_,
      hDense.leftByRelease hLive hOutcome⟩
    rw [Request.run, Action.perform_map,
      show (Backend.releaseQubit q).perform sim = _
        from perform_releaseQubit_of_live hLive]
    rfl
  · intro hRoom
    refine ⟨sim.nextQubit, sim.allocated, ?_,
      hDense.leftByAllocation hRoom⟩
    rw [Request.run, Action.perform_map,
      show (Backend.allocateQubit (R := R)).perform sim = _
        from perform_allocateQubit_of_room hRoom]
    rfl

/-
  Of two entangled qubits the first is released. The second is
  left alone at position zero, with one of the two branches.
-/
theorem entangled_qubit_left_alone :
    let init : FullState Float := start fun _ => 0.25
    let requests : List (Request Float) :=
      [.allocateQubit, .allocateQubit, .apply .h ⟨0⟩,
        .applyControlled .x [⟨0⟩] ⟨1⟩]
    let sim := (runRequests init requests).2
    init.Fresh ∧
      ∃ sim',
        (Request.releaseQubit ⟨0⟩).run.perform sim =
            (.ok .done, sim') ∧
          sim'.state.amplitudes.size = 2 ∧
          sim'.qubits.Live ⟨1⟩ ∧
          sim'.drawn = 1 := by
  intro init requests sim
  have hFresh : init.Fresh := .start _
  have hFirst : sim.qubits.get? ⟨0⟩ = some 0 := rfl
  have hSecond : sim.qubits.Live ⟨1⟩ := by decide
  rcases
      (other_qubits_keep_joint_state hFresh requests).1
        ⟨0⟩ 0 hFirst _ rfl with
    ⟨sim', hPerform, hLeft⟩
  exact ⟨hFresh, sim', hPerform, hLeft.size_eq,
    (hLeft.live_iff ⟨1⟩).mpr ⟨by decide, hSecond⟩, hLeft.drawn_eq⟩

end FullState

end QuantumRuntime

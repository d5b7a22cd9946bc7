import QuantumRuntime.Proofs.Simulator.Removal
import QuantumRuntime.Proofs.Simulator.UnitaryGates

/-
  This file adds up the squared moduli of all amplitudes of a
  state vector over the real numbers. A gate keeps the total
  weight, since it keeps the weight of every pair. A collapse
  onto a branch that has weight divides by the norm of the
  branch and so makes the total weight one.

  Key definitions include:
    * `StateVector.totalWeight`

  Key theorems include:
    * `StateVector.totalWeight_applyGate`
    * `StateVector.totalWeight_addQubit`
    * `StateVector.totalWeight_eq_branches`
    * `StateVector.totalWeight_collapse`
    * `FullState.totalWeight_compacted`
-/

namespace QuantumRuntime

------------------------------------------------------------
-- Sums over indices
------------------------------------------------------------

/- Putting a bit where one was inserted replaces it. -/
@[simp] theorem putBit_insertBit
    (position : Nat)
    (bit earlier : Bool)
    (i : Nat) :
    putBit position bit (insertBit position earlier i) =
      insertBit position bit i := by
  apply Nat.eq_of_testBit_eq
  intro k
  rw [testBit_putBit, testBit_insertBit, testBit_insertBit]
  by_cases hAt : k = position
  · rw [if_pos hAt, if_neg (by omega), if_pos hAt]
  · rw [if_neg hAt, if_neg hAt, if_neg hAt]

/-
  The indices that have a bit at a position are those into
  which it is inserted there.
-/
theorem sum_insertBit
    {position n : Nat}
    (hPosition : position < n)
    (bit : Bool)
    (φ : Nat → ℝ) :
    (∑ i ∈ Finset.range (2 ^ n),
        if i.testBit position = bit then φ i else 0) =
      ∑ j ∈ Finset.range (2 ^ (n - 1)),
        φ (insertBit position bit j) := by
  rw [← Finset.sum_filter]
  refine Finset.sum_nbij' (deleteBit position)
    (insertBit position bit) ?_ ?_ ?_ ?_ ?_
  · intro i hMem
    rw [Finset.mem_filter, Finset.mem_range] at hMem
    exact Finset.mem_range.mpr (deleteBit_lt hPosition hMem.1)
  · intro j hMem
    rw [Finset.mem_range] at hMem
    exact Finset.mem_filter.mpr
      ⟨Finset.mem_range.mpr (insertBit_lt hPosition bit hMem),
        testBit_insertBit_self position bit j⟩
  · intro i hMem
    rw [Finset.mem_filter] at hMem
    rw [← hMem.2, insertBit_deleteBit]
  · intro j _
    exact deleteBit_insertBit position bit j
  · intro i hMem
    rw [Finset.mem_filter] at hMem
    rw [← hMem.2, insertBit_deleteBit]

/- A sum over all indices is one over those with each bit. -/
theorem sum_eq_sum_testBit
    (position count : Nat)
    (φ : Nat → ℝ) :
    ∑ i ∈ Finset.range count, φ i =
      (∑ i ∈ Finset.range count,
          if i.testBit position = false then φ i else 0) +
        ∑ i ∈ Finset.range count,
          if i.testBit position = true then φ i else 0 := by
  rw [← Finset.sum_add_distrib]
  apply Finset.sum_congr rfl
  intro i _
  cases i.testBit position with
  | false => exact (add_zero _).symm
  | true => exact (zero_add _).symm

------------------------------------------------------------
-- Total weight
------------------------------------------------------------

namespace Amplitude

/- Scaling down by a number divides by its square. -/
theorem normSq_divScalar
    (a : Amplitude ℝ)
    (x : ℝ) :
    (a.divScalar x).normSq = a.normSq / (x * x) := by
  show a.re / x * (a.re / x) + a.im / x * (a.im / x) =
    (a.re * a.re + a.im * a.im) / (x * x)
  rw [div_mul_div_comm, div_mul_div_comm, add_div]

end Amplitude

namespace StateVector

variable {s : StateVector ℝ}

/- The sum of the squared moduli of all amplitudes. -/
noncomputable def totalWeight
    (s : StateVector ℝ) : ℝ :=
  ∑ i ∈ Finset.range (2 ^ s.qubitCount), (s.amplitude i).normSq

/- A state vector that has weight is not zero. -/
theorem exists_amplitude_ne_zero
    (hWeight : s.totalWeight ≠ 0) :
    ∃ i < 2 ^ s.qubitCount, s.amplitude i ≠ 0 := by
  rcases Finset.exists_ne_zero_of_sum_ne_zero hWeight with
    ⟨i, hMem, hTerm⟩
  refine ⟨i, Finset.mem_range.mp hMem, ?_⟩
  intro hZero
  rw [hZero, Amplitude.normSq_zero] at hTerm
  exact hTerm rfl

theorem totalWeight_ground_zero :
    (ground 0 : StateVector ℝ).totalWeight = 1 := by
  show ∑ i ∈ Finset.range (2 ^ 0), _ = _
  rw [pow_zero, Finset.sum_range_one, amplitude_ground_zero,
    Amplitude.normSq_one]

/- The new amplitudes are zero. -/
theorem totalWeight_addQubit
    (s : StateVector ℝ) :
    s.addQubit.totalWeight = s.totalWeight := by
  have hMore : 2 ^ s.qubitCount ≤ 2 ^ (s.qubitCount + 1) :=
    Nat.pow_le_pow_right (by omega) (by omega)
  unfold totalWeight
  rw [qubitCount_addQubit]
  simp only [amplitude_addQubit]
  symm
  apply Finset.sum_subset (Finset.range_subset_range.mpr hMore)
  intro i _ hOutside
  rw [Finset.mem_range, not_lt] at hOutside
  rw [s.amplitude_of_le hOutside, Amplitude.normSq_zero]

------------------------------------------------------------
-- Gates
------------------------------------------------------------

/- The weight of a pair of amplitudes. -/
noncomputable def pairWeight
    (pair : Amplitude ℝ × Amplitude ℝ) : ℝ :=
  pair.1.normSq + pair.2.normSq

/- The total weight is that of all pairs at a target. -/
theorem totalWeight_eq_pairs
    {target : Nat}
    (hTarget : target < s.qubitCount) :
    s.totalWeight =
      ∑ j ∈ Finset.range (2 ^ (s.qubitCount - 1)),
        pairWeight
          (pairAt target s.amplitude
            (insertBit target false j)) := by
  unfold totalWeight
  rw [sum_eq_sum_testBit target, sum_insertBit hTarget,
    sum_insertBit hTarget, ← Finset.sum_add_distrib]
  apply Finset.sum_congr rfl
  intro j _
  simp only [pairWeight, pairAt, putBit_insertBit]

/- A gate keeps the weight of each pair under any mask. -/
theorem pairWeight_applyGate
    (g : Gate ℝ)
    (mask : Nat)
    {target i : Nat}
    (s : StateVector ℝ)
    (hTarget : target < s.qubitCount)
    (hIndex : i < 2 ^ s.qubitCount) :
    pairWeight
        (pairAt target (s.applyGate g mask target).amplitude i) =
      pairWeight (pairAt target s.amplitude i) := by
  have hPair :
      pairAt target (s.applyGate g mask target).amplitude i =
        pairAt target
          (pairImage (gateAction g) mask target s.amplitude)
          i := by
    unfold pairAt
    rw [amplitude_applyGate_eq g mask s hTarget
        (putBit_lt hTarget false hIndex),
      amplitude_applyGate_eq g mask s hTarget
        (putBit_lt hTarget true hIndex)]
  rw [hPair]
  by_cases hHolds : Holds mask (putBit target false i)
  · rw [pairAt_pairImage_of_holds hHolds]
    exact normSq_gateAction g _ _
  · rw [pairAt_pairImage_of_not_holds hHolds]

/- A gate keeps the total weight under any mask. -/
theorem totalWeight_applyGate
    (g : Gate ℝ)
    (mask : Nat)
    {target : Nat}
    (s : StateVector ℝ)
    (hTarget : target < s.qubitCount) :
    (s.applyGate g mask target).totalWeight = s.totalWeight := by
  rw [totalWeight_eq_pairs hTarget,
    totalWeight_eq_pairs
      (s := s.applyGate g mask target) (by simpa),
    qubitCount_applyGate]
  apply Finset.sum_congr rfl
  intro j hMem
  exact pairWeight_applyGate g mask s hTarget
    (insertBit_lt hTarget false (Finset.mem_range.mp hMem))

------------------------------------------------------------
-- Branches
------------------------------------------------------------

/- A sum that is taken in order is a sum over the indices. -/
theorem sumOver_eq_sum
    (n : Nat)
    (test : Nat → Bool)
    (term : Nat → ℝ) :
    sumOver n test term =
      ∑ i ∈ Finset.range n, if test i then term i else 0 := by
  unfold sumOver
  induction n with
  | zero => rfl
  | succ n ih =>
      rw [Nat.fold_succ, ih, Finset.sum_range_succ]
      cases test n with
      | false => exact (add_zero _).symm
      | true => rfl

theorem branchWeight_eq_sum
    (position : Nat)
    (outcome : Bool)
    (s : StateVector ℝ) :
    s.branchWeight position outcome =
      ∑ i ∈ Finset.range (2 ^ s.qubitCount),
        if i.testBit position = outcome then
          (s.amplitude i).normSq
        else
          0 := by
  rw [branchWeight, Nat.one_shiftLeft, sumOver_eq_sum]
  simp only [decide_eq_true_eq]

/- The weights of the two branches add up to the total. -/
theorem totalWeight_eq_branches
    (position : Nat)
    (s : StateVector ℝ) :
    s.totalWeight =
      s.branchWeight position false +
        s.branchWeight position true := by
  rw [branchWeight_eq_sum, branchWeight_eq_sum, totalWeight]
  exact sum_eq_sum_testBit position _ _

/- A branch with weight is scaled by its norm. -/
theorem normSq_normalized
    {weight : ℝ}
    (hWeight : 0 < weight)
    (a : Amplitude ℝ) :
    (normalized (Scalar.sqrt weight) a).normSq =
      a.normSq / weight := by
  have hNorm : Scalar.less 0 (Scalar.sqrt weight) = true :=
    decide_eq_true (Real.sqrt_pos.mpr hWeight)
  rw [normalized, if_pos hNorm, Amplitude.normSq_divScalar]
  congr 1
  exact Real.mul_self_sqrt hWeight.le

/- A collapse onto a branch with weight gives total weight one. -/
theorem totalWeight_collapse
    {position : Nat}
    {outcome : Bool}
    (hWeight : 0 < s.branchWeight position outcome) :
    (s.collapse position outcome).totalWeight = 1 := by
  calc
    (s.collapse position outcome).totalWeight =
      ∑ i ∈ Finset.range (2 ^ s.qubitCount),
        (if i.testBit position = outcome then
          (s.amplitude i).normSq
        else
          0) / s.branchWeight position outcome := by
      unfold totalWeight
      rw [qubitCount_collapse]
      apply Finset.sum_congr rfl
      intro i hMem
      rw [amplitude_collapse _ _ _ (Finset.mem_range.mp hMem),
        normSq_normalized hWeight]
      split
      · rfl
      · rw [Amplitude.normSq_zero]
    _ = s.branchWeight position outcome /
        s.branchWeight position outcome := by
      rw [← Finset.sum_div, ← branchWeight_eq_sum]
    _ = 1 := div_self hWeight.ne'

end StateVector

namespace FullState

/-
  Removing a qubit after a collapse onto a branch with weight
  drops amplitudes that are zero.
-/
theorem totalWeight_compacted
    {sim : FullState ℝ}
    {position : Nat}
    (hPosition : position < sim.state.qubitCount)
    (hWeight :
      0 < sim.state.branchWeight position
        (sim.nextOutcome position)) :
    (sim.compacted position).totalWeight = 1 := by
  calc
    (sim.compacted position).totalWeight =
      ∑ j ∈ Finset.range (2 ^ (sim.state.qubitCount - 1)),
        (sim.state.amplitude
          (insertBit position (sim.nextOutcome position)
            j)).normSq /
          sim.state.branchWeight position
            (sim.nextOutcome position) := by
      unfold StateVector.totalWeight
      rw [qubitCount_compacted]
      apply Finset.sum_congr rfl
      intro j hMem
      rw [amplitude_compacted rfl hPosition
          (Finset.mem_range.mp hMem),
        StateVector.normSq_normalized hWeight]
    _ = sim.state.branchWeight position
          (sim.nextOutcome position) /
        sim.state.branchWeight position
          (sim.nextOutcome position) := by
      rw [← Finset.sum_div, StateVector.branchWeight_eq_sum,
        sum_insertBit hPosition]
    _ = 1 := div_self hWeight.ne'

end FullState

end QuantumRuntime

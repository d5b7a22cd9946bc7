import Mathlib
import QuantumRuntime.Proofs.Simulator.ExchangedQubits
import QuantumRuntime.Proofs.Simulator.RepeatedMeasurement

/-
  This file compares the two branches of a qubit. What gates and
  collapses do to the amplitudes is stated for all indices, also
  for those past the last one, where every amplitude is zero. A
  gate on one qubit does not change how the weight is divided
  between the branches of another, and a qubit that was zero is
  even after a half turn: an amplitude with its bit set is the
  same as with the bit clear.

  Key definitions include:
    * `StateVector.Even`
    * `StateVector.halfTurn`
    * `StateVector.signFactor`

  Key theorems include:
    * `StateVector.pairAt_applyGate`
    * `StateVector.amplitude_flip`
    * `StateVector.amplitude_collapse_eq`
    * `StateVector.branchWeight_applyGate_of_ne`
    * `StateVector.Even.branchWeight_eq`
    * `StateVector.Settled.amplitude_half_turn`
-/

namespace QuantumRuntime

/- A flip of another bit keeps the bit that was put. -/
theorem flipUnder_putBit
    {mask target position : Nat}
    (hOutside : mask.testBit position = false)
    (hOther : target ≠ position)
    (bit : Bool)
    (i : Nat) :
    flipUnder mask target (putBit position bit i) =
      putBit position bit (flipUnder mask target i) := by
  apply Nat.eq_of_testBit_eq
  intro k
  simp only [testBit_flipUnder, testBit_putBit,
    holds_putBit_iff hOutside]
  by_cases hAt : k = position
  · rw [if_pos hAt, if_pos hAt,
      if_neg (fun hBoth => hOther (hBoth.1.symm.trans hAt))]
  · rw [if_neg hAt, if_neg hAt]

namespace StateVector

variable {s : StateVector ℝ} {mask target position : Nat}
variable {bit : Bool}

------------------------------------------------------------
-- Amplitudes at all indices
------------------------------------------------------------

/- An index past the last one stays there when a bit is put. -/
theorem amplitude_putBit_of_le
    (hTarget : target < s.qubitCount)
    {i : Nat}
    (hPast : 2 ^ s.qubitCount ≤ i)
    (bit : Bool) :
    s.amplitude (putBit target bit i) = 0 := by
  apply s.amplitude_of_le
  rw [← not_lt]
  intro hThere
  have hBack := putBit_lt hTarget (i.testBit target) hThere
  rw [putBit_putBit, putBit_testBit] at hBack
  exact absurd hBack (not_lt.mpr hPast)

/- A settled qubit leaves no amplitude with the other bit. -/
theorem Settled.amplitude_eq_zero
    (hSettled : s.Settled position bit)
    {i : Nat}
    (hBit : i.testBit position ≠ bit) :
    s.amplitude i = 0 := by
  by_cases hIndex : i < 2 ^ s.qubitCount
  · exact hSettled i hIndex hBit
  · exact s.amplitude_of_le (not_lt.mp hIndex)

/- A gate without controls acts on each pair of amplitudes. -/
theorem pairAt_applyGate
    (g : Gate ℝ)
    (hTarget : target < s.qubitCount)
    (i : Nat) :
    pairAt target (s.applyGate g 0 target).amplitude i =
      gateAction g (s.amplitude (putBit target false i))
        (s.amplitude (putBit target true i)) := by
  by_cases hIndex : i < 2 ^ s.qubitCount
  · have hPair :
        pairAt target (s.applyGate g 0 target).amplitude i =
          pairAt target
            (pairImage (gateAction g) 0 target s.amplitude) i := by
      unfold pairAt
      rw [amplitude_applyGate_eq g 0 s hTarget
          (putBit_lt hTarget false hIndex),
        amplitude_applyGate_eq g 0 s hTarget
          (putBit_lt hTarget true hIndex)]
    rw [hPair, pairAt_pairImage_of_holds (by simp [Holds])]
    rfl
  · have hPast := not_lt.mp hIndex
    have hAfter (bit : Bool) :
        (s.applyGate g 0 target).amplitude (putBit target bit i) =
          0 :=
      amplitude_putBit_of_le (by simpa) (by simpa) bit
    rw [pairAt, hAfter, hAfter, amplitude_putBit_of_le hTarget hPast,
      amplitude_putBit_of_le hTarget hPast,
      gateAction_zero Amplitude.ringLaws_real.zeroLaws]

/- A gate takes each side of a pair to that of its image. -/
theorem amplitude_gate_putBit
    (g : Gate ℝ)
    (hTarget : target < s.qubitCount)
    (bit : Bool)
    (i : Nat) :
    (s.applyGate g 0 target).amplitude (putBit target bit i) =
      side bit
        ((gateMatrix g).act (s.amplitude (putBit target false i))
          (s.amplitude (putBit target true i))) := by
  rw [← gateAction_eq_act Amplitude.ringLaws_real,
    ← pairAt_applyGate g hTarget i]
  cases bit <;> rfl

/- A flip exchanges the amplitudes at all indices. -/
theorem amplitude_flip
    (hOutside : mask.testBit target = false)
    (hTarget : target < s.qubitCount)
    (i : Nat) :
    (s.applyGate .x mask target).amplitude i =
      s.amplitude (flipUnder mask target i) := by
  by_cases hIndex : i < 2 ^ s.qubitCount
  · exact amplitude_controlled_flip hOutside s hTarget hIndex
  · have hPast :
        2 ^ s.qubitCount ≤ flipUnder mask target i := by
      rw [← not_lt]
      intro hThere
      have hBack :
          flipUnder mask target (flipUnder mask target i) <
            2 ^ s.qubitCount :=
        flipUnder_lt hTarget hThere
      rw [flipUnder_flipUnder hOutside] at hBack
      exact hIndex hBack
    rw [amplitude_of_le _ (by simpa using hIndex),
      amplitude_of_le _ hPast]

/- A collapse keeps one branch, scaled by its norm. -/
theorem amplitude_collapse_eq
    (position : Nat)
    (bit : Bool)
    (s : StateVector ℝ)
    (i : Nat) :
    (s.collapse position bit).amplitude i =
      normalized (Scalar.sqrt (s.branchWeight position bit))
        (if i.testBit position = bit then s.amplitude i else 0) := by
  by_cases hIndex : i < 2 ^ s.qubitCount
  · exact amplitude_collapse position bit s hIndex
  · rw [amplitude_of_le _ (by simpa using hIndex),
      s.amplitude_of_le (not_lt.mp hIndex), ite_self,
      normalized_zero]

/- A collapse settles its qubit and keeps others settled. -/
theorem Settled.collapse
    (hSettled : s.Settled position bit)
    (other : Nat)
    (outcome : Bool) :
    (s.collapse other outcome).Settled position bit := by
  intro i _ hBit
  rw [amplitude_collapse_eq, hSettled.amplitude_eq_zero hBit,
    ite_self, normalized_zero]

------------------------------------------------------------
-- Weights of branches
------------------------------------------------------------

/- A branch of one qubit consists of whole pairs of another. -/
theorem branchWeight_eq_pairs
    (hTarget : target < s.qubitCount)
    (hOther : position ≠ target)
    (bit : Bool) :
    s.branchWeight position bit =
      ∑ j ∈ Finset.range (2 ^ (s.qubitCount - 1)),
        if (insertBit target false j).testBit position = bit then
          pairWeight
            (pairAt target s.amplitude (insertBit target false j))
        else
          0 := by
  rw [branchWeight_eq_sum, sum_eq_sum_testBit target,
    sum_insertBit hTarget, sum_insertBit hTarget,
    ← Finset.sum_add_distrib]
  apply Finset.sum_congr rfl
  intro j _
  have hSame :
      (insertBit target true j).testBit position =
        (insertBit target false j).testBit position := by
    rw [← putBit_insertBit target true false j, testBit_putBit,
      if_neg hOther]
  rw [hSame]
  by_cases hBit :
      (insertBit target false j).testBit position = bit
  · simp only [if_pos hBit, pairWeight, pairAt, putBit_insertBit]
  · simp only [if_neg hBit, add_zero]

/- A gate on another qubit keeps the weight of a branch. -/
theorem branchWeight_applyGate_of_ne
    (g : Gate ℝ)
    (mask : Nat)
    (hTarget : target < s.qubitCount)
    (hOther : position ≠ target)
    (bit : Bool) :
    (s.applyGate g mask target).branchWeight position bit =
      s.branchWeight position bit := by
  rw [branchWeight_eq_pairs hTarget hOther,
    branchWeight_eq_pairs (s := s.applyGate g mask target)
      (by simpa) hOther,
    qubitCount_applyGate]
  apply Finset.sum_congr rfl
  intro j hMem
  rw [pairWeight_applyGate g mask s hTarget
    (insertBit_lt hTarget false (Finset.mem_range.mp hMem))]

/-
  The two branches of a qubit are even: each amplitude has the
  same modulus with its bit set as with the bit clear.
-/
def Even
    (position : Nat)
    (s : StateVector ℝ) : Prop :=
  ∀ i,
    (s.amplitude (putBit position true i)).normSq =
      (s.amplitude (putBit position false i)).normSq

/- Branches whose amplitudes correspond have the same weight. -/
theorem branchWeight_congr
    {t : StateVector ℝ}
    {other : Bool}
    (hPosition : position < s.qubitCount)
    (hCount : t.qubitCount = s.qubitCount)
    (hSame :
      ∀ i,
        (t.amplitude (putBit position other i)).normSq =
          (s.amplitude (putBit position bit i)).normSq) :
    t.branchWeight position other = s.branchWeight position bit := by
  rw [branchWeight_eq_sum, branchWeight_eq_sum, hCount,
    sum_insertBit hPosition, sum_insertBit hPosition]
  apply Finset.sum_congr rfl
  intro j _
  have hIndex := hSame (insertBit position false j)
  rwa [putBit_insertBit, putBit_insertBit] at hIndex

/- A norm scales amplitudes of the same modulus alike. -/
theorem normSq_normalized_congr
    (norm : ℝ)
    {a b : Amplitude ℝ}
    (hSame : a.normSq = b.normSq) :
    (normalized norm a).normSq = (normalized norm b).normSq := by
  unfold normalized
  split
  · rw [Amplitude.normSq_divScalar, Amplitude.normSq_divScalar,
      hSame]
  · exact hSame

/- Even branches have the same weight. -/
theorem Even.branchWeight_eq
    (hEven : s.Even position)
    (hPosition : position < s.qubitCount) :
    s.branchWeight position true = s.branchWeight position false :=
  branchWeight_congr hPosition rfl hEven

/- A collapse of another qubit keeps branches even. -/
theorem Even.collapse
    (hEven : s.Even position)
    (hOther : target ≠ position)
    (outcome : Bool) :
    (s.collapse target outcome).Even position := by
  intro i
  simp only [amplitude_collapse_eq, testBit_putBit, if_neg hOther]
  by_cases hBit : i.testBit target = outcome
  · rw [if_pos hBit, if_pos hBit]
    exact normSq_normalized_congr _ (hEven i)
  · rw [if_neg hBit, if_neg hBit]

/- So does a flip of another qubit. -/
theorem Even.flip
    (hEven : s.Even position)
    (hTarget : target < s.qubitCount)
    (hOther : target ≠ position) :
    (s.applyGate .x 0 target).Even position := by
  have hNone (k : Nat) : (0 : Nat).testBit k = false :=
    Nat.zero_testBit k
  intro i
  rw [amplitude_flip (hNone target) hTarget,
    amplitude_flip (hNone target) hTarget,
    flipUnder_putBit (hNone position) hOther,
    flipUnder_putBit (hNone position) hOther]
  exact hEven _

/- Branches of the same weight have half of it each. -/
theorem branchWeight_eq_half
    (hSame :
      s.branchWeight position true = s.branchWeight position false)
    (hWeight : s.totalWeight = 1) :
    s.branchWeight position true = 1 / 2 := by
  rw [totalWeight_eq_branches position] at hWeight
  linarith

------------------------------------------------------------
-- Half turns
------------------------------------------------------------

/- The amplitude of either bit after a half turn of zero. -/
noncomputable def halfTurn : Amplitude ℝ :=
  Amplitude.ofReal Scalar.invSqrtTwo

/- The factor of a change of sign. -/
noncomputable def signFactor : Bool → Amplitude ℝ
  | false => 1
  | true => -1

@[simp] theorem normSq_signFactor
    (sign : Bool) :
    (signFactor sign).normSq = 1 := by
  cases sign <;> simp [signFactor]

theorem signFactor_mul_self
    (sign : Bool) :
    signFactor sign * signFactor sign = 1 := by
  let := Amplitude.ringLaws_real.commRing
  cases sign with
  | false =>
      show 1 * 1 = (1 : Amplitude ℝ)
      ring
  | true =>
      show -1 * -1 = (1 : Amplitude ℝ)
      ring

/- A half turn adds the sides of a pair or subtracts them. -/
theorem amplitude_half_turn_putBit
    (hTarget : target < s.qubitCount)
    (bit : Bool)
    (i : Nat) :
    (s.applyGate .h 0 target).amplitude (putBit target bit i) =
      halfTurn *
        (s.amplitude (putBit target false i) +
          signFactor bit * s.amplitude (putBit target true i)) := by
  let := Amplitude.ringLaws_real.commRing
  rw [amplitude_gate_putBit .h hTarget]
  cases bit with
  | false =>
      show halfTurn * _ + halfTurn * _ = halfTurn * (_ + 1 * _)
      ring
  | true =>
      show halfTurn * _ + -halfTurn * _ = halfTurn * (_ + -1 * _)
      ring

/- A half turn gives the amplitude of zero to both bits. -/
theorem Settled.amplitude_half_turn
    (hSettled : s.Settled target false)
    (hTarget : target < s.qubitCount)
    (bit : Bool)
    (i : Nat) :
    (s.applyGate .h 0 target).amplitude (putBit target bit i) =
      halfTurn * s.amplitude (putBit target false i) := by
  have hNone : s.amplitude (putBit target true i) = 0 :=
    hSettled.amplitude_eq_zero (by simp)
  rw [amplitude_half_turn_putBit hTarget, hNone,
    Amplitude.mul_zero, Amplitude.add_zero]

/- A qubit that was zero is even after a half turn. -/
theorem Settled.even_half_turn
    (hSettled : s.Settled target false)
    (hTarget : target < s.qubitCount) :
    (s.applyGate .h 0 target).Even target := by
  intro i
  rw [hSettled.amplitude_half_turn hTarget,
    hSettled.amplitude_half_turn hTarget]

/- A gate on another qubit keeps a qubit settled. -/
theorem Settled.applyGate
    (hSettled : s.Settled position bit)
    (g : Gate ℝ)
    (hTarget : target < s.qubitCount)
    (hOther : position ≠ target) :
    (s.applyGate g mask target).Settled position bit := by
  intro i hIndex hBit
  rw [qubitCount_applyGate] at hIndex
  rw [amplitude_applyGate_eq g mask s hTarget hIndex,
    pairImage_eq,
    hSettled.side_gateAction Amplitude.ringLaws_real.zeroLaws g
      hOther hTarget hIndex hBit,
    hSettled.amplitude_eq_zero hBit, ite_self]

end StateVector

end QuantumRuntime

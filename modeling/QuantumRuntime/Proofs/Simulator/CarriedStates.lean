import QuantumRuntime.Proofs.Simulator.EvenBranches

/-
  This file describes qubits that carry a state of their own. A
  qubit carries a state when its pairs of amplitudes are all in
  the same proportion, whatever the other qubits are in. This
  may hold up to a flip and a change of sign that depend on the
  other qubits: once these are measured, one flip and one change
  of sign make it good.

  Key definitions include:
    * `StateVector.CarriesUpTo`
    * `StateVector.Carries`

  Key theorems include:
    * `StateVector.Settled.carries_applyGate`
    * `StateVector.CarriesUpTo.collapse`
    * `StateVector.CarriesUpTo.correct_flip`
    * `StateVector.CarriesUpTo.correct_sign`
    * `StateVector.Carries.branchWeight_eq`
-/

namespace QuantumRuntime

namespace StateVector

variable {s : StateVector ℝ} {position target control : Nat}
variable {u v : Amplitude ℝ}
variable {flip sign : Nat → Bool}

------------------------------------------------------------
-- Gates on pairs of amplitudes
------------------------------------------------------------

/- A flip exchanges the sides of a pair. -/
theorem amplitude_flip_putBit
    (hTarget : target < s.qubitCount)
    (bit : Bool)
    (i : Nat) :
    (s.applyGate .x 0 target).amplitude (putBit target bit i) =
      s.amplitude (putBit target (!bit) i) := by
  let := Amplitude.ringLaws_real.commRing
  rw [amplitude_gate_putBit .x hTarget]
  cases bit with
  | false =>
      rw [Bool.not_false]
      show 0 * _ + 1 * _ = _
      ring
  | true =>
      rw [Bool.not_true]
      show 1 * _ + 0 * _ = _
      ring

/- A controlled flip exchanges them where the control is one. -/
theorem amplitude_controlled_flip_putBit
    (hTarget : target < s.qubitCount)
    (hOther : control ≠ target)
    (bit : Bool)
    (i : Nat) :
    (s.applyGate .x (2 ^ control) target).amplitude
        (putBit target bit i) =
      s.amplitude (putBit target (bit ^^ i.testBit control) i) := by
  have hOutside : (2 ^ control).testBit target = false := by
    rw [Nat.testBit_two_pow, decide_eq_false hOther]
  rw [amplitude_flip hOutside hTarget]
  congr 1
  apply Nat.eq_of_testBit_eq
  intro k
  simp only [testBit_flipUnder, holds_two_pow_iff, testBit_putBit,
    if_neg hOther]
  by_cases hAt : k = target
  · cases bit <;> cases i.testBit control <;> simp [hAt]
  · simp [hAt]

/- A phase flip changes the sign of one side of a pair. -/
theorem amplitude_phase_flip_putBit
    (hTarget : target < s.qubitCount)
    (bit : Bool)
    (i : Nat) :
    (s.applyGate .z 0 target).amplitude (putBit target bit i) =
      signFactor bit * s.amplitude (putBit target bit i) := by
  let := Amplitude.ringLaws_real.commRing
  rw [amplitude_gate_putBit .z hTarget]
  cases bit with
  | false =>
      show 1 * _ + 0 * _ = 1 * _
      ring
  | true =>
      show 0 * _ + -1 * _ = -1 * _
      ring

------------------------------------------------------------
-- Carried states
------------------------------------------------------------

/-
  A qubit carries a state, given by the amplitudes of zero and
  of one, up to a flip and a change of sign: its pairs of
  amplitudes are in proportion to that of the state once they
  are flipped and changed in sign as the index says.
-/
def CarriesUpTo
    (flip sign : Nat → Bool)
    (u v : Amplitude ℝ)
    (position : Nat)
    (s : StateVector ℝ) : Prop :=
  ∀ i,
    v * s.amplitude (putBit position (flip i) i) =
      signFactor (sign i) *
        (u * s.amplitude (putBit position (!flip i) i))

/- A qubit carries a state as it is. -/
def Carries
    (u v : Amplitude ℝ)
    (position : Nat)
    (s : StateVector ℝ) : Prop :=
  ∀ i,
    v * s.amplitude (putBit position false i) =
      u * s.amplitude (putBit position true i)

theorem carriesUpTo_iff_carries :
    s.CarriesUpTo (fun _ => false) (fun _ => false) u v position ↔
      s.Carries u v position := by
  unfold CarriesUpTo Carries
  simp only [signFactor, Amplitude.one_mul, Bool.not_false]

/- A gate on a qubit that is zero gives it a state to carry. -/
theorem Settled.carries_applyGate
    (hSettled : s.Settled target false)
    (g : Gate ℝ)
    (hTarget : target < s.qubitCount) :
    (s.applyGate g 0 target).Carries (gateMatrix g).m00
      (gateMatrix g).m10 target := by
  let := Amplitude.ringLaws_real.commRing
  intro i
  have hNone : s.amplitude (putBit target true i) = 0 :=
    hSettled.amplitude_eq_zero (by simp)
  rw [amplitude_gate_putBit g hTarget,
    amplitude_gate_putBit g hTarget, hNone, side_false, side_true]
  simp only [GateMatrix.act]
  ring

/- A gate on another qubit leaves a carried state alone. -/
theorem Carries.applyGate_of_ne
    (hCarries : s.Carries u v position)
    (g : Gate ℝ)
    (hTarget : target < s.qubitCount)
    (hOther : target ≠ position) :
    (s.applyGate g 0 target).Carries u v position := by
  let := Amplitude.ringLaws_real.commRing
  intro i
  have hSides (bit : Bool) :
      v * s.amplitude
          (putBit target bit (putBit position false i)) =
        u * s.amplitude
          (putBit target bit (putBit position true i)) := by
    rw [putBit_comm hOther, putBit_comm hOther]
    exact hCarries (putBit target bit i)
  have hPair (bit : Bool) :
      v * (s.applyGate g 0 target).amplitude
          (putBit target bit (putBit position false i)) =
        u * (s.applyGate g 0 target).amplitude
          (putBit target bit (putBit position true i)) := by
    rw [amplitude_gate_putBit g hTarget,
      amplitude_gate_putBit g hTarget]
    cases bit with
    | false =>
        simp only [side_false, GateMatrix.act]
        linear_combination
          (gateMatrix g).m00 * hSides false +
            (gateMatrix g).m01 * hSides true
    | true =>
        simp only [side_true, GateMatrix.act]
        linear_combination
          (gateMatrix g).m10 * hSides false +
            (gateMatrix g).m11 * hSides true
  have hHere := hPair (i.testBit target)
  rwa [putBit_comm hOther, putBit_comm hOther,
    putBit_testBit] at hHere

/- So does a flip under a further qubit. -/
theorem Carries.controlled_flip_of_ne
    (hCarries : s.Carries u v position)
    (hTarget : target < s.qubitCount)
    (hApart : control ≠ target)
    (hControl : control ≠ position)
    (hOther : target ≠ position) :
    (s.applyGate .x (2 ^ control) target).Carries u v position := by
  have hNone {k : Nat} (hElse : control ≠ k) :
      (2 ^ control).testBit k = false := by
    rw [Nat.testBit_two_pow, decide_eq_false hElse]
  intro i
  rw [amplitude_flip (hNone hApart) hTarget,
    amplitude_flip (hNone hApart) hTarget,
    flipUnder_putBit (hNone hControl) hOther,
    flipUnder_putBit (hNone hControl) hOther]
  exact hCarries _

------------------------------------------------------------
-- Corrections
------------------------------------------------------------

/- A factor may be taken into an amplitude that is scaled. -/
theorem mul_normalized
    (norm : ℝ)
    (a b : Amplitude ℝ) :
    a * normalized norm b = normalized norm (a * b) := by
  unfold normalized
  split
  · apply Amplitude.ext_parts
    · show a.re * (b.re / norm) - a.im * (b.im / norm) =
        (a.re * b.re - a.im * b.im) / norm
      ring
    · show a.re * (b.im / norm) + a.im * (b.re / norm) =
        (a.re * b.im + a.im * b.re) / norm
      ring
  · rfl

/- A measurement of another qubit fixes what its bit decides. -/
theorem CarriesUpTo.collapse
    (hCarries : s.CarriesUpTo flip sign u v position)
    (hOther : control ≠ position)
    {bit : Bool}
    {flip' sign' : Nat → Bool}
    (hFixed :
      ∀ i, i.testBit control = bit →
        flip i = flip' i ∧ sign i = sign' i) :
    (s.collapse control bit).CarriesUpTo flip' sign' u v
      position := by
  intro i
  rw [amplitude_collapse_eq, amplitude_collapse_eq,
    testBit_putBit, if_neg hOther, testBit_putBit, if_neg hOther]
  by_cases hBit : i.testBit control = bit
  · rcases hFixed i hBit with ⟨hFlip, hSign⟩
    rw [if_pos hBit, if_pos hBit, ← hFlip, ← hSign]
    simp only [mul_normalized]
    rw [hCarries i]
  · rw [if_neg hBit, if_neg hBit, normalized_zero]
    simp only [Amplitude.mul_zero]

/- A flip makes good a flip. -/
theorem CarriesUpTo.correct_flip
    (hCarries : s.CarriesUpTo (fun _ => true) sign u v position)
    (hPosition : position < s.qubitCount) :
    (s.applyGate .x 0 position).CarriesUpTo (fun _ => false) sign u
      v position := by
  intro i
  rw [amplitude_flip_putBit hPosition,
    amplitude_flip_putBit hPosition]
  exact hCarries i

/- A phase flip makes good a change of sign. -/
theorem CarriesUpTo.correct_sign
    (hCarries :
      s.CarriesUpTo (fun _ => false) (fun _ => true) u v position)
    (hPosition : position < s.qubitCount) :
    (s.applyGate .z 0 position).CarriesUpTo (fun _ => false)
      (fun _ => false) u v position := by
  let := Amplitude.ringLaws_real.commRing
  intro i
  have hHere :
      v * s.amplitude (putBit position false i) =
        -1 * (u * s.amplitude (putBit position true i)) :=
    hCarries i
  rw [amplitude_phase_flip_putBit hPosition,
    amplitude_phase_flip_putBit hPosition]
  show v * (1 * _) =
    1 * (u * (-1 * s.amplitude (putBit position true i)))
  linear_combination hHere

/- The weight of one is that of the state that is carried. -/
theorem Carries.branchWeight_eq
    (hCarries : s.Carries u v position)
    (hPosition : position < s.qubitCount)
    (hUnit : u.normSq + v.normSq = 1)
    (hWeight : s.totalWeight = 1) :
    s.branchWeight position true = v.normSq := by
  have hProportion :
      v.normSq * s.branchWeight position false =
        u.normSq * s.branchWeight position true := by
    rw [branchWeight_eq_sum, branchWeight_eq_sum,
      sum_insertBit hPosition, sum_insertBit hPosition,
      Finset.mul_sum, Finset.mul_sum]
    apply Finset.sum_congr rfl
    intro j _
    have hPair := hCarries (insertBit position false j)
    rw [putBit_insertBit, putBit_insertBit] at hPair
    rw [← Amplitude.normSq_mul, ← Amplitude.normSq_mul, hPair]
  rw [totalWeight_eq_branches position] at hWeight
  linear_combination
    v.normSq * hWeight - hProportion -
      s.branchWeight position true * hUnit

end StateVector

end QuantumRuntime

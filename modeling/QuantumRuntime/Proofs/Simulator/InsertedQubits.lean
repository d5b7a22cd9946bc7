import QuantumRuntime.Proofs.Simulator.Amplitudes

/-
  This file proves that removing a qubit undoes its insertion.
  The indices that removal reads are those whose bit at the
  position of the qubit is clear, each once and in order, and
  machine words hold all of them.

  Key definitions include:
    * `StateVector.insertQubit`

  Key theorems include:
    * `strictMono_insertZeroBit`
    * `image_insertZeroBit`
    * `toNat_insertZeroBit`
    * `StateVector.removeQubit_insertQubit`
    * `StateVector.addQubit_eq_insertQubit`
    * `StateVector.removal_enumerates_clear_indices`
-/

namespace QuantumRuntime

------------------------------------------------------------
-- Inserting a zero
------------------------------------------------------------

/- Inserting a zero adds the bits at the position and above again. -/
theorem insertZeroBit_eq_add
    (position i : Nat) :
    insertZeroBit position i =
      i + 2 ^ position * (i / 2 ^ position) := by
  have hSplit := Nat.div_add_mod i (2 ^ position)
  rw [insertZeroBit_eq_insertBit, insertBit]
  simp only [Bool.toNat_false, Nat.add_zero, Nat.mul_left_comm _ 2]
  omega

/- Inserting a zero keeps the order of indices. -/
theorem strictMono_insertZeroBit
    (position : Nat) :
    StrictMono (insertZeroBit position) := by
  intro i j hLt
  have hHigh : i / 2 ^ position ≤ j / 2 ^ position :=
    Nat.div_le_div_right (Nat.le_of_lt hLt)
  rw [insertZeroBit_eq_add, insertZeroBit_eq_add]
  exact Nat.add_lt_add_of_lt_of_le hLt
    (Nat.mul_le_mul_left _ hHigh)

/- Bits below the position stay, and the others move up by one. -/
theorem testBit_insertZeroBit
    (position i k : Nat) :
    (insertZeroBit position i).testBit
        (if k < position then k else k + 1) =
      i.testBit k := by
  rw [insertZeroBit_eq_insertBit, testBit_insertBit]
  by_cases hBelow : k < position
  · rw [if_pos hBelow, if_pos hBelow]
  · rw [if_neg hBelow, if_neg (by omega), if_neg (by omega),
      Nat.add_sub_cancel]

/-
  The indices with a zero inserted are those whose bit at the
  position is clear.
-/
theorem image_insertZeroBit
    {position n : Nat}
    (hPosition : position < n) :
    insertZeroBit position '' Set.Iio (2 ^ (n - 1)) =
      {i | i < 2 ^ n ∧ i.testBit position = false} := by
  ext i
  constructor
  · rintro ⟨j, hIndex, rfl⟩
    rw [insertZeroBit_eq_insertBit]
    exact ⟨insertBit_lt hPosition false hIndex,
      testBit_insertBit_self position false j⟩
  · rintro ⟨hIndex, hClear⟩
    refine ⟨deleteBit position i, deleteBit_lt hPosition hIndex, ?_⟩
    rw [insertZeroBit_eq_insertBit, ← hClear, insertBit_deleteBit]

------------------------------------------------------------
-- Machine words
------------------------------------------------------------

/- The mask of the bits below a position. -/
theorem toNat_lowMask
    {position width : Nat}
    (hPosition : position < width) :
    ((BitVec.ofNat width 1 <<< position) -
        BitVec.ofNat width 1).toNat =
      2 ^ position - 1 := by
  have hOne : (BitVec.ofNat width 1).toNat = 1 := by
    rw [BitVec.toNat_ofNat]
    exact Nat.mod_eq_of_lt (Nat.one_lt_two_pow (by omega))
  have hShifted :
      (BitVec.ofNat width 1 <<< position).toNat = 2 ^ position := by
    rw [BitVec.toNat_shiftLeft, hOne, Nat.one_shiftLeft]
    exact Nat.mod_eq_of_lt
      (Nat.pow_lt_pow_right (by omega) hPosition)
  have hPositive := Nat.two_pow_pos position
  rw [BitVec.toNat_sub_of_le, hShifted, hOne]
  rw [BitVec.le_def, hShifted, hOne]
  exact hPositive

/-
  The formula on words, whose mask is complemented and whose
  shift drops the highest bit, inserts a zero as long as the
  index has a bit to spare.
-/
theorem toNat_insertZeroBit
    {position n width : Nat}
    (hPosition : position < n)
    (hWidth : n ≤ width)
    {i : Nat}
    (hIndex : i < 2 ^ (n - 1)) :
    let one := BitVec.ofNat width 1
    let low := (one <<< position) - one
    let word := BitVec.ofNat width i
    ((word &&& low) ||| ((word &&& ~~~low) <<< 1)).toNat =
      insertZeroBit position i := by
  intro one low word
  have hLow (k : Nat) : low.getLsbD k = decide (k < position) := by
    rw [← BitVec.testBit_toNat,
      toNat_lowMask (Nat.lt_of_lt_of_le hPosition hWidth),
      Nat.testBit_two_pow_sub_one]
  have hFits : i < 2 ^ width :=
    Nat.lt_of_lt_of_le hIndex
      (Nat.pow_le_pow_right (by omega) (by omega))
  have hWord (k : Nat) : word.getLsbD k = i.testBit k := by
    rw [← BitVec.testBit_toNat, BitVec.toNat_ofNat,
      Nat.mod_eq_of_lt hFits]
  have hAbove (k : Nat) (hk : n - 1 ≤ k) : i.testBit k = false :=
    Nat.testBit_lt_two_pow
      (Nat.lt_of_lt_of_le hIndex
        (Nat.pow_le_pow_right (by omega) hk))
  apply Nat.eq_of_testBit_eq
  intro k
  rw [insertZeroBit_eq_insertBit, testBit_insertBit,
    BitVec.testBit_toNat]
  simp only [BitVec.getLsbD_or, BitVec.getLsbD_and,
    BitVec.getLsbD_shiftLeft, BitVec.getLsbD_not, hLow, hWord]
  by_cases hBelow : k < position
  · have hShifted : k - 1 < position := by omega
    simp [hBelow, hShifted]
  · by_cases hAt : k = position
    · -- The bit that would be shifted here is masked, if there is one.
      subst hAt
      cases k <;> simp
    · have hShifted : ¬ k - 1 < position := by omega
      have hPositive : ¬ k < 1 := by omega
      by_cases hFit : k < width
      · have hPrevious : k - 1 < width := by omega
        simp [hBelow, hAt, hShifted, hPositive, hFit, hPrevious]
      · simp [hBelow, hAt, hFit, hAbove (k - 1) (by omega)]

namespace StateVector

variable {R : Type} [Scalar R]

------------------------------------------------------------
-- Inserting a qubit
------------------------------------------------------------

/-
  The state with a qubit that is zero at a position. The qubits
  that were there and above move up by one.
-/
def insertQubit
    (position : Nat)
    (s : StateVector R) : StateVector R :=
  tabulate (s.qubitCount + 1) fun i =>
    if i.testBit position then
      0
    else
      s.amplitude (deleteBit position i)

/- Removing a qubit that was inserted gives back the state. -/
theorem removeQubit_insertQubit
    {position : Nat}
    (s : StateVector R)
    (hPosition : position ≤ s.qubitCount) :
    (s.insertQubit position).removeQubit position = s := by
  refine ext_amplitude rfl fun i hIndex => ?_
  have hInserted :
      insertBit position false i < 2 ^ (s.qubitCount + 1) :=
    insertBit_lt (Nat.lt_succ_of_le hPosition) false hIndex
  rw [amplitude_removeQubit position _ hIndex, insertQubit,
    amplitude_tabulate _ hInserted, testBit_insertBit_self,
    if_neg Bool.false_ne_true, deleteBit_insertBit]

/- Adding a qubit inserts it above all others. -/
theorem addQubit_eq_insertQubit
    (s : StateVector R) :
    s.addQubit = s.insertQubit s.qubitCount := by
  refine ext_amplitude rfl fun i hIndex => ?_
  rw [qubitCount_addQubit] at hIndex
  rw [amplitude_addQubit, insertQubit, amplitude_tabulate _ hIndex]
  by_cases hOld : i < 2 ^ s.qubitCount
  · have hDeleted : deleteBit s.qubitCount i = i := by
      rw [deleteBit, Nat.div_eq_of_lt hIndex, Nat.mod_eq_of_lt hOld,
        Nat.mul_zero, Nat.zero_add]
    rw [Nat.testBit_lt_two_pow hOld, if_neg Bool.false_ne_true,
      hDeleted]
  · have hNew := Nat.le_of_not_lt hOld
    have hSet : i.testBit s.qubitCount = true :=
      Nat.testBit_of_two_pow_le_and_two_pow_add_one_gt hNew hIndex
    rw [s.amplitude_of_le hNew, if_pos hSet]

------------------------------------------------------------
-- Removal
------------------------------------------------------------

/-
  Removing the qubit at a position of `n` reads the indices
  whose bit there is clear: each of them once, in ascending
  order and with the other bits in place, also when the formula
  is computed on words of at least `n` bits. So removal undoes
  the insertion of a zero qubit anywhere, and the addition of
  one at the end.
-/
theorem removal_enumerates_clear_indices
    {position n : Nat}
    (hPosition : position < n) :
    StrictMono (insertZeroBit position) ∧
      insertZeroBit position '' Set.Iio (2 ^ (n - 1)) =
        {i | i < 2 ^ n ∧ i.testBit position = false} ∧
      (∀ i k,
        (insertZeroBit position i).testBit
            (if k < position then k else k + 1) =
          i.testBit k) ∧
      (∀ width, n ≤ width → ∀ i, i < 2 ^ (n - 1) →
        let one := BitVec.ofNat width 1
        let low := (one <<< position) - one
        let word := BitVec.ofNat width i
        ((word &&& low) ||| ((word &&& ~~~low) <<< 1)).toNat =
          insertZeroBit position i) ∧
      (∀ s : StateVector R, s.qubitCount = n →
        ∀ i, i < 2 ^ (n - 1) →
          (s.removeQubit position).amplitude i =
            s.amplitude (insertZeroBit position i)) ∧
      (∀ s : StateVector R, s.qubitCount + 1 = n →
        (s.insertQubit position).removeQubit position = s) ∧
      ∀ s : StateVector R,
        s.addQubit.removeQubit s.qubitCount = s := by
  refine ⟨strictMono_insertZeroBit position,
    image_insertZeroBit hPosition,
    testBit_insertZeroBit position, ?_, ?_, ?_, ?_⟩
  · intro width hWidth i hIndex
    exact toNat_insertZeroBit hPosition hWidth hIndex
  · rintro s rfl i hIndex
    rw [amplitude_removeQubit position s hIndex,
      insertZeroBit_eq_insertBit]
  · intro s hCount
    exact s.removeQubit_insertQubit (by omega)
  · intro s
    rw [addQubit_eq_insertQubit]
    exact s.removeQubit_insertQubit (Nat.le_refl _)

/-
  With three qubits the indices without the middle one are 0, 1,
  4 and 5, and taking it out leaves an entangled pair as it was.
-/
theorem middle_qubit_is_taken_out :
    let pair : StateVector Float :=
      ((ground 2).applyGate .h 0 0).applyGate .x 1 1
    1 < 3 ∧
      (List.range 4).map (insertZeroBit 1) = [0, 1, 4, 5] ∧
      insertZeroBit 1 '' Set.Iio 4 =
        {i | i < 8 ∧ i.testBit 1 = false} ∧
      (pair.insertQubit 1).removeQubit 1 = pair := by
  intro pair
  have hRemoval :=
    removal_enumerates_clear_indices (R := Float)
      (by decide : 1 < 3)
  exact ⟨by decide, by decide, hRemoval.2.1,
    hRemoval.2.2.2.2.2.1 pair rfl⟩

end StateVector

end QuantumRuntime

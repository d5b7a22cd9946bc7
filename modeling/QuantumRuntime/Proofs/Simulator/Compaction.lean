import QuantumRuntime.Proofs.Simulator.GatePairs
import QuantumRuntime.Proofs.Simulator.Removal

/-
  This file proves that removing a qubit from a state vector
  commutes with gates on the other qubits, once the positions
  above the removed one have been lowered. The pair of an index
  and the mask that it holds are the same before and after the
  bit of the removed qubit is deleted. No law of the scalar
  arithmetic is used, and the removed qubit need not be zero.

  Key theorems include:
    * `FullState.testBit_deleteBit_of_ne`
    * `holds_insertBit_iff`
    * `putBit_insertBit_of_ne`
    * `StateVector.pairImage_insertBit`
    * `StateVector.removal_commutes_with_gates`
-/

namespace QuantumRuntime

------------------------------------------------------------
-- Lowered positions
------------------------------------------------------------

namespace FullState

/- Lowering tells apart all positions but the removed one. -/
theorem lowerAbove_inj
    {removed i j : Nat}
    (hFirst : i ≠ removed)
    (hSecond : j ≠ removed) :
    lowerAbove removed i = lowerAbove removed j ↔ i = j := by
  unfold lowerAbove
  split <;> split <;> omega

/- A lowered position is one of the remaining qubits. -/
theorem lowerAbove_lt
    {removed position n : Nat}
    (hRemoved : removed < n)
    (hPosition : position < n)
    (hOther : position ≠ removed) :
    lowerAbove removed position < n - 1 := by
  unfold lowerAbove
  split <;> omega

/- Every position is what some other one is lowered to. -/
theorem exists_lowerAbove_eq
    (removed k : Nat) :
    ∃ old, old ≠ removed ∧ lowerAbove removed old = k := by
  by_cases hBelow : k < removed
  · exact ⟨k, by omega, if_neg (by omega)⟩
  · exact ⟨k + 1, by omega, if_pos (by omega)⟩

/- Deleting a bit lowers the bits above it by one. -/
theorem testBit_deleteBit_of_ne
    {removed old : Nat}
    (hOther : old ≠ removed)
    (mask : Nat) :
    (deleteBit removed mask).testBit (lowerAbove removed old) =
      mask.testBit old := by
  rw [← testBit_insertBit_of_ne hOther (mask.testBit removed),
    insertBit_deleteBit]

end FullState

open FullState (lowerAbove lowerAbove_inj lowerAbove_lt
  testBit_insertBit_of_ne testBit_deleteBit_of_ne)

------------------------------------------------------------
-- Indices with an inserted bit
------------------------------------------------------------

/-
  Whether a mask is held does not depend on a bit outside it,
  which can be deleted from the index and from the mask.
-/
theorem holds_insertBit_iff
    {removed mask : Nat}
    (hOutside : mask.testBit removed = false)
    (bit : Bool)
    (j : Nat) :
    Holds mask (insertBit removed bit j) ↔
      Holds (deleteBit removed mask) j := by
  rw [holds_iff, holds_iff]
  constructor
  · intro hBits k hMask
    rcases FullState.exists_lowerAbove_eq removed k with
      ⟨old, hOther, rfl⟩
    rw [testBit_deleteBit_of_ne hOther] at hMask
    rw [← testBit_insertBit_of_ne hOther bit]
    exact hBits old hMask
  · intro hBits k hMask
    have hOther : k ≠ removed := by
      rintro rfl
      rw [hOutside] at hMask
      cases hMask
    rw [testBit_insertBit_of_ne hOther]
    rw [← testBit_deleteBit_of_ne hOther] at hMask
    exact hBits _ hMask

/-
  Putting a bit at a position is putting it at the lowered
  position before the bit of the removed qubit is inserted.
-/
theorem putBit_insertBit_of_ne
    {removed target : Nat}
    (hOther : target ≠ removed)
    (bit inserted : Bool)
    (j : Nat) :
    putBit target bit (insertBit removed inserted j) =
      insertBit removed inserted
        (putBit (lowerAbove removed target) bit j) := by
  apply Nat.eq_of_testBit_eq
  intro k
  rw [testBit_putBit]
  by_cases hRemoved : k = removed
  · rw [hRemoved, if_neg (Ne.symm hOther), testBit_insertBit_self,
      testBit_insertBit_self]
  · rw [testBit_insertBit_of_ne hRemoved,
      testBit_insertBit_of_ne hRemoved, testBit_putBit]
    simp only [lowerAbove_inj hRemoved hOther]

namespace StateVector

variable {R : Type}

------------------------------------------------------------
-- Removal
------------------------------------------------------------

/-
  The image of an amplitude among those with an inserted bit is
  its image under the lowered target and mask.
-/
theorem pairImage_insertBit
    (f : Amplitude R → Amplitude R → Amplitude R × Amplitude R)
    {removed mask target : Nat}
    (hOther : target ≠ removed)
    (hOutside : mask.testBit removed = false)
    (inserted : Bool)
    (old : Nat → Amplitude R)
    (j : Nat) :
    pairImage f mask target old (insertBit removed inserted j) =
      pairImage f (deleteBit removed mask)
        (lowerAbove removed target)
        (fun i => old (insertBit removed inserted i)) j := by
  rw [pairImage_eq, pairImage_eq, testBit_insertBit_of_ne hOther]
  simp only [pairAt, putBit_insertBit_of_ne hOther,
    holds_insertBit_iff hOutside]

variable [Scalar R]

/-
  A gate followed by the removal of a qubit that it does not
  name is the removal followed by the gate, with the target and
  every bit of the mask above the removed position lowered by
  one.
-/
theorem removal_commutes_with_gates
    (g : Gate R)
    (mask : Nat)
    {removed target : Nat}
    (s : StateVector R)
    (hRemoved : removed < s.qubitCount)
    (hTarget : target < s.qubitCount)
    (hOther : target ≠ removed)
    (hOutside : mask.testBit removed = false) :
    let mask' := deleteBit removed mask
    let target' := lowerAbove removed target
    (∀ k, k ≠ removed →
        mask'.testBit (lowerAbove removed k) = mask.testBit k) ∧
      (s.applyGate g mask target).removeQubit removed =
        (s.removeQubit removed).applyGate g mask' target' := by
  intro mask' target'
  refine ⟨fun k hKept => testBit_deleteBit_of_ne hKept mask, ?_⟩
  have hLowered : target' < s.qubitCount - 1 :=
    lowerAbove_lt hRemoved hTarget hOther
  refine ext_amplitude (by simp) fun j hIndex => ?_
  rw [qubitCount_removeQubit, qubitCount_applyGate] at hIndex
  have hSource : insertBit removed false j < 2 ^ s.qubitCount :=
    insertBit_lt hRemoved false hIndex
  calc
    ((s.applyGate g mask target).removeQubit removed).amplitude
        j =
      pairImage (gateAction g) mask target s.amplitude
        (insertBit removed false j) := by
      rw [amplitude_removeQubit _ _ (by simpa using hIndex),
        amplitude_applyGate_eq g mask s hTarget hSource]
    _ = pairImage (gateAction g) mask' target'
        (fun i => s.amplitude (insertBit removed false i)) j :=
      pairImage_insertBit _ hOther hOutside false _ j
    _ = pairImage (gateAction g) mask' target'
        (s.removeQubit removed).amplitude j := by
      apply pairImage_congr
      intro bit
      rw [amplitude_removeQubit _ _
        (putBit_lt hLowered bit hIndex)]
    _ = ((s.removeQubit removed).applyGate g mask'
        target').amplitude j := by
      rw [amplitude_applyGate_eq g mask' _ hLowered hIndex]

/-
  The middle one of three qubits is removed from a state that
  has weight on both of its values. The flip of the last qubit
  under the first one becomes a flip of the second of two
  qubits, and the flip of the first one under the last changes
  its mask.
-/
theorem removed_middle_qubit_lowers_target :
    let s : StateVector Float :=
      tabulate 3 fun i => Amplitude.ofReal (Float.ofNat i)
    1 < s.qubitCount ∧
      2 < s.qubitCount ∧
      (s.applyGate .x 1 2).removeQubit 1 =
        (s.removeQubit 1).applyGate .x 1 1 ∧
      (s.applyGate .x 4 0).removeQubit 1 =
        (s.removeQubit 1).applyGate .x 2 0 := by
  intro s
  have hRemoved : 1 < s.qubitCount := by decide
  have hAbove : 2 < s.qubitCount := by decide
  have hBelow : 0 < s.qubitCount := by decide
  exact ⟨hRemoved, hAbove,
    (removal_commutes_with_gates .x 1 s hRemoved hAbove
      (by decide) (by decide)).2,
    (removal_commutes_with_gates .x 4 s hRemoved hBelow
      (by decide) (by decide)).2⟩

end StateVector

end QuantumRuntime

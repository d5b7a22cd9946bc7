import Mathlib
import QuantumRuntime.Simulator.StateVector

/-
  This file describes the index arithmetic of state vectors bit
  by bit: clearing or flipping the target of a gate, and
  inserting or deleting a bit at the position of a qubit.

  Key definitions include:
    * `insertBit`
    * `deleteBit`
    * `flipUnder`

  Key theorems include:
    * `testBit_clearBits`
    * `clearBits_two_pow_eq_iff`
    * `testBit_insertBit`
    * `insertZeroBit_eq_insertBit`
    * `insertBit_lt`
    * `insertBit_deleteBit`
    * `testBit_flipUnder`
-/

namespace QuantumRuntime

------------------------------------------------------------
-- Clearing bits
------------------------------------------------------------

/- A bit stays set when it is not in the mask. -/
@[simp] theorem testBit_clearBits
    (i mask k : Nat) :
    (clearBits i mask).testBit k =
      (i.testBit k && !mask.testBit k) := by
  rw [clearBits, Nat.testBit_xor, Nat.testBit_and]
  cases i.testBit k <;> cases mask.testBit k <;> rfl

/- The test of a single bit is a test with its mask. -/
theorem and_two_pow_eq_zero_iff
    (i k : Nat) :
    i &&& 2 ^ k = 0 ↔ i.testBit k = false := by
  constructor
  · intro hZero
    have hBit := congrArg (Nat.testBit · k) hZero
    simpa using hBit
  · intro hClear
    apply Nat.eq_of_testBit_eq
    intro j
    rw [Nat.testBit_and, Nat.testBit_two_pow, Nat.zero_testBit]
    by_cases hBit : k = j
    · simp [← hBit, hClear]
    · simp [hBit]

/- Clearing a bit that is clear changes nothing. -/
theorem clearBits_two_pow_of_clear
    {i k : Nat}
    (hClear : i.testBit k = false) :
    clearBits i (2 ^ k) = i := by
  rw [clearBits, (and_two_pow_eq_zero_iff i k).mpr hClear,
    Nat.xor_zero]

/- Setting a bit that is set changes nothing. -/
theorem or_two_pow_of_set
    {i k : Nat}
    (hSet : i.testBit k = true) :
    i ||| 2 ^ k = i := by
  apply Nat.eq_of_testBit_eq
  intro j
  rw [Nat.testBit_or, Nat.testBit_two_pow]
  by_cases hBit : k = j
  · simp [← hBit, hSet]
  · simp [hBit]

/- A bit that is cleared and set again is set. -/
theorem clearBits_or_two_pow
    (i k : Nat) :
    clearBits i (2 ^ k) ||| 2 ^ k = i ||| 2 ^ k := by
  apply Nat.eq_of_testBit_eq
  intro j
  rw [Nat.testBit_or, Nat.testBit_or, testBit_clearBits]
  cases i.testBit j <;> cases (2 ^ k).testBit j <;> rfl

/- A bit that is set and cleared again is clear. -/
theorem clearBits_or_self
    (i mask : Nat) :
    clearBits (i ||| mask) mask = clearBits i mask := by
  apply Nat.eq_of_testBit_eq
  intro j
  rw [testBit_clearBits, testBit_clearBits, Nat.testBit_or]
  cases i.testBit j <;> cases mask.testBit j <;> rfl

/-
  The indices from which clearing a bit leads to `low` are
  `low` itself and its partner.
-/
theorem clearBits_two_pow_eq_iff
    {low k : Nat}
    (hClear : low.testBit k = false)
    (i : Nat) :
    clearBits i (2 ^ k) = low ↔ i = low ∨ i = low ||| 2 ^ k := by
  constructor
  · rintro rfl
    cases hBit : i.testBit k with
    | false => exact Or.inl (clearBits_two_pow_of_clear hBit).symm
    | true =>
        rw [clearBits_or_two_pow, or_two_pow_of_set hBit]
        exact Or.inr rfl
  · rintro (rfl | rfl)
    · exact clearBits_two_pow_of_clear hClear
    · rw [clearBits_or_self, clearBits_two_pow_of_clear hClear]

/- Clearing bits does not enlarge an index. -/
theorem clearBits_le
    (i mask : Nat) :
    clearBits i mask ≤ i := by
  apply Nat.le_of_testBit
  intro k
  rw [testBit_clearBits]
  cases i.testBit k <;> simp

/- The partner of an index is an index. -/
theorem or_two_pow_lt
    {i k n : Nat}
    (hIndex : i < 2 ^ n)
    (hBit : k < n) :
    i ||| 2 ^ k < 2 ^ n :=
  Nat.or_lt_two_pow hIndex
    (Nat.pow_lt_pow_right (by omega) hBit)

------------------------------------------------------------
-- Inserting a bit
------------------------------------------------------------

/-
  Insert a bit at a position: the bits below stay where they
  are and the others move up by one.
-/
def insertBit
    (position : Nat)
    (bit : Bool)
    (i : Nat) : Nat :=
  2 ^ position * (2 * (i / 2 ^ position) + bit.toNat) +
    i % 2 ^ position

/- The bits of an index into which a bit was inserted. -/
theorem testBit_insertBit
    (position : Nat)
    (bit : Bool)
    (i k : Nat) :
    (insertBit position bit i).testBit k =
      if k < position then
        i.testBit k
      else if k = position then
        bit
      else
        i.testBit (k - 1) := by
  have hLow : i % 2 ^ position < 2 ^ position :=
    Nat.mod_lt _ (Nat.two_pow_pos position)
  rw [insertBit, Nat.testBit_two_pow_mul_add _ hLow]
  by_cases hBelow : k < position
  · simp [hBelow]
  · rw [if_neg hBelow, if_neg hBelow]
    by_cases hAt : k = position
    · rw [if_pos hAt, hAt, Nat.sub_self, Nat.testBit_zero,
        Nat.mul_add_mod]
      cases bit <;> rfl
    · have hAbove : ∃ d, k = position + (d + 1) :=
        ⟨k - position - 1, by omega⟩
      rcases hAbove with ⟨d, rfl⟩
      have hHalf :
          (2 * (i / 2 ^ position) + bit.toNat) / 2 =
            i / 2 ^ position := by
        have hBit := Bool.toNat_lt bit
        omega
      rw [if_neg hAt, Nat.add_sub_cancel_left,
        Nat.testBit_succ, hHalf, Nat.testBit_div_two_pow]
      congr 1
      omega

/- The inserted bit is found at its position. -/
@[simp] theorem testBit_insertBit_self
    (position : Nat)
    (bit : Bool)
    (i : Nat) :
    (insertBit position bit i).testBit position = bit := by
  simp [testBit_insertBit]

/- The compaction formula inserts a zero. -/
theorem insertZeroBit_eq_insertBit
    (position i : Nat) :
    insertZeroBit position i = insertBit position false i := by
  apply Nat.eq_of_testBit_eq
  intro k
  rw [testBit_insertBit, insertZeroBit, Nat.one_shiftLeft,
    Nat.testBit_or,
    Nat.testBit_and, Nat.testBit_shiftLeft, testBit_clearBits,
    Nat.testBit_two_pow_sub_one, Nat.testBit_two_pow_sub_one]
  by_cases hBelow : k < position
  · have hShifted : k - 1 < position := by omega
    simp [hBelow, hShifted]
  · by_cases hAt : k = position
    · subst hAt
      by_cases hZero : 1 ≤ k
      · have hShifted : k - 1 < k := by omega
        simp [hShifted]
      · simp [hZero]
    · have hPositive : 1 ≤ k := by omega
      have hShifted : ¬ k - 1 < position := by omega
      simp [hBelow, hAt, hPositive, hShifted]

/- Setting the bit at a position turns an inserted zero to one. -/
theorem insertBit_or_two_pow
    (position : Nat)
    (bit : Bool)
    (i : Nat) :
    insertBit position bit i ||| 2 ^ position =
      insertBit position true i := by
  apply Nat.eq_of_testBit_eq
  intro k
  rw [Nat.testBit_or, testBit_insertBit, testBit_insertBit,
    Nat.testBit_two_pow]
  by_cases hBelow : k < position
  · have hNe : position ≠ k := by omega
    simp [hBelow, hNe]
  · by_cases hAt : k = position
    · simp [hAt]
    · simp [hBelow, hAt, Ne.symm hAt]

/- Inserting a bit at a valid position gives a valid index. -/
theorem insertBit_lt
    {position n i : Nat}
    (hPosition : position < n)
    (bit : Bool)
    (hIndex : i < 2 ^ (n - 1)) :
    insertBit position bit i < 2 ^ n := by
  apply Nat.lt_pow_two_of_testBit
  intro k hk
  rw [testBit_insertBit, if_neg (by omega), if_neg (by omega)]
  exact Nat.testBit_lt_two_pow
    (Nat.lt_of_lt_of_le hIndex
      (Nat.pow_le_pow_right (by omega) (by omega)))

------------------------------------------------------------
-- Deleting a bit
------------------------------------------------------------

/- Delete the bit at a position: the others move down by one. -/
def deleteBit
    (position i : Nat) : Nat :=
  2 ^ position * (i / 2 ^ (position + 1)) + i % 2 ^ position

/- The bits of an index from which a bit was deleted. -/
theorem testBit_deleteBit
    (position i k : Nat) :
    (deleteBit position i).testBit k =
      if k < position then
        i.testBit k
      else
        i.testBit (k + 1) := by
  have hLow : i % 2 ^ position < 2 ^ position :=
    Nat.mod_lt _ (Nat.two_pow_pos position)
  rw [deleteBit, Nat.testBit_two_pow_mul_add _ hLow]
  by_cases hBelow : k < position
  · simp [hBelow]
  · rw [if_neg hBelow, if_neg hBelow, Nat.testBit_div_two_pow]
    congr 1
    omega

/- Deleting a bit undoes its insertion. -/
@[simp] theorem deleteBit_insertBit
    (position : Nat)
    (bit : Bool)
    (i : Nat) :
    deleteBit position (insertBit position bit i) = i := by
  apply Nat.eq_of_testBit_eq
  intro k
  rw [testBit_deleteBit, testBit_insertBit, testBit_insertBit]
  by_cases hBelow : k < position
  · rw [if_pos hBelow, if_pos hBelow]
  · rw [if_neg hBelow, if_neg (by omega), if_neg (by omega),
      Nat.add_sub_cancel]

/- A bit that was deleted can be inserted again. -/
theorem insertBit_deleteBit
    (position i : Nat) :
    insertBit position (i.testBit position)
      (deleteBit position i) = i := by
  apply Nat.eq_of_testBit_eq
  intro k
  rw [testBit_insertBit, testBit_deleteBit, testBit_deleteBit]
  by_cases hBelow : k < position
  · rw [if_pos hBelow, if_pos hBelow]
  · by_cases hAt : k = position
    · rw [if_neg hBelow, if_pos hAt, hAt]
    · rw [if_neg hBelow, if_neg hAt, if_neg (by omega),
        Nat.sub_add_cancel (by omega)]

/- Deleting a bit at a valid position gives a valid index. -/
theorem deleteBit_lt
    {position n i : Nat}
    (hPosition : position < n)
    (hIndex : i < 2 ^ n) :
    deleteBit position i < 2 ^ (n - 1) := by
  apply Nat.lt_pow_two_of_testBit
  intro k hk
  rw [testBit_deleteBit, if_neg (by omega)]
  exact Nat.testBit_lt_two_pow
    (Nat.lt_of_lt_of_le hIndex
      (Nat.pow_le_pow_right (by omega) (by omega)))

------------------------------------------------------------
-- Flipping a bit under a mask
------------------------------------------------------------

/- An index holds a mask when it has every bit of the mask. -/
theorem holds_iff
    (mask i : Nat) :
    Holds mask i ↔
      ∀ k, mask.testBit k = true → i.testBit k = true := by
  constructor
  · intro hHolds k hMask
    rw [← show i &&& mask = mask from hHolds,
      Nat.testBit_and] at hMask
    exact (Bool.and_eq_true_iff.mp hMask).1
  · intro hBits
    apply Nat.eq_of_testBit_eq
    intro k
    rw [Nat.testBit_and]
    cases hMask : mask.testBit k with
    | false => exact Bool.and_false _
    | true => rw [hBits k hMask, Bool.and_self]

/- Whether a mask is held depends on its bits only. -/
theorem holds_congr
    {mask i j : Nat}
    (hBits : ∀ k, mask.testBit k = true →
      i.testBit k = j.testBit k) :
    Holds mask i ↔ Holds mask j := by
  rw [holds_iff, holds_iff]
  refine forall_congr' fun k => ?_
  refine imp_congr_right fun hMask => ?_
  rw [hBits k hMask]

/- The index with the target bit flipped if it holds the mask. -/
def flipUnder
    (mask target i : Nat) : Nat :=
  if Holds mask i then i ^^^ 2 ^ target else i

/- Flipping changes the target bit and no other. -/
theorem testBit_flipUnder
    (mask target i k : Nat) :
    (flipUnder mask target i).testBit k =
      if k = target ∧ Holds mask i then
        !i.testBit k
      else
        i.testBit k := by
  unfold flipUnder
  by_cases hHolds : Holds mask i
  · rw [if_pos hHolds, Nat.testBit_xor, Nat.testBit_two_pow]
    by_cases hTarget : k = target
    · simp [hTarget, hHolds]
    · simp [hTarget, Ne.symm hTarget]
  · simp [hHolds]

/- A flip does not decide whether the mask is held. -/
theorem holds_flipUnder_iff
    {mask target : Nat}
    (hOutside : mask.testBit target = false)
    (i : Nat) :
    Holds mask (flipUnder mask target i) ↔ Holds mask i := by
  apply holds_congr
  intro k hMask
  rw [testBit_flipUnder, if_neg]
  rintro ⟨rfl, _⟩
  rw [hOutside] at hMask
  cases hMask

/- Flipping twice changes nothing. -/
theorem flipUnder_flipUnder
    {mask target : Nat}
    (hOutside : mask.testBit target = false)
    (i : Nat) :
    flipUnder mask target (flipUnder mask target i) = i := by
  apply Nat.eq_of_testBit_eq
  intro k
  rw [testBit_flipUnder, testBit_flipUnder]
  simp only [holds_flipUnder_iff hOutside]
  split
  · rw [Bool.not_not]
  · rfl

/- A flip of a valid position keeps an index valid. -/
theorem flipUnder_lt
    {mask target n i : Nat}
    (hTarget : target < n)
    (hIndex : i < 2 ^ n) :
    flipUnder mask target i < 2 ^ n := by
  apply Nat.lt_pow_two_of_testBit
  intro k hk
  rw [testBit_flipUnder, if_neg (by omega)]
  exact Nat.testBit_lt_two_pow
    (Nat.lt_of_lt_of_le hIndex
      (Nat.pow_le_pow_right (by omega) hk))

end QuantumRuntime

import QuantumRuntime.Proofs.Simulator.Amplitudes

/-
  This file describes a gate by what it does to one pair of
  amplitudes: those at the two indices that differ in the target
  bit alone. The pair is changed when its indices hold the
  control mask and kept otherwise, and no other amplitude plays
  a part in it. No law of the scalar arithmetic is used.

  Key definitions include:
    * `putBit`
    * `StateVector.gateAction`

  Key theorems include:
    * `testBit_putBit`
    * `holds_putBit_iff`
    * `StateVector.amplitude_applyGate_eq`
    * `StateVector.amplitude_applyGate_applyGate`
    * `StateVector.pairImage_eq`
    * `StateVector.pairAt_pairImage_of_holds`
    * `StateVector.pairImage_congr`
-/

namespace QuantumRuntime

------------------------------------------------------------
-- Putting a bit
------------------------------------------------------------

/- The index with the bit at a position set to a value. -/
def putBit
    (position : Nat)
    (bit : Bool)
    (i : Nat) : Nat :=
  if bit then i ||| 2 ^ position else clearBits i (2 ^ position)

/- The bit at the position is the new one; the others stay. -/
theorem testBit_putBit
    (position : Nat)
    (bit : Bool)
    (i k : Nat) :
    (putBit position bit i).testBit k =
      if k = position then bit else i.testBit k := by
  unfold putBit
  by_cases hAt : k = position
  · cases bit <;> simp [hAt]
  · cases bit <;> simp [hAt, Ne.symm hAt]

@[simp] theorem testBit_putBit_self
    (position : Nat)
    (bit : Bool)
    (i : Nat) :
    (putBit position bit i).testBit position = bit := by
  rw [testBit_putBit, if_pos rfl]

/- Putting the bit that is there changes nothing. -/
@[simp] theorem putBit_testBit
    (position i : Nat) :
    putBit position (i.testBit position) i = i := by
  apply Nat.eq_of_testBit_eq
  intro k
  rw [testBit_putBit]
  by_cases hAt : k = position
  · rw [if_pos hAt, hAt]
  · rw [if_neg hAt]

/- The bit that is put last is the one that stays. -/
@[simp] theorem putBit_putBit
    (position : Nat)
    (bit earlier : Bool)
    (i : Nat) :
    putBit position bit (putBit position earlier i) =
      putBit position bit i := by
  apply Nat.eq_of_testBit_eq
  intro k
  rw [testBit_putBit, testBit_putBit, testBit_putBit]
  by_cases hAt : k = position
  · rw [if_pos hAt, if_pos hAt]
  · rw [if_neg hAt, if_neg hAt, if_neg hAt]

/- Bits at two positions can be put in either order. -/
theorem putBit_comm
    {first second : Nat}
    (hOther : first ≠ second)
    (bit bit' : Bool)
    (i : Nat) :
    putBit first bit (putBit second bit' i) =
      putBit second bit' (putBit first bit i) := by
  apply Nat.eq_of_testBit_eq
  intro k
  rw [testBit_putBit, testBit_putBit, testBit_putBit,
    testBit_putBit]
  by_cases hFirst : k = first
  · rw [if_pos hFirst, if_pos hFirst,
      if_neg (fun hSecond => hOther (hFirst.symm.trans hSecond))]
  · rw [if_neg hFirst, if_neg hFirst]

/- Putting a bit at a valid position keeps an index valid. -/
theorem putBit_lt
    {position n i : Nat}
    (hPosition : position < n)
    (bit : Bool)
    (hIndex : i < 2 ^ n) :
    putBit position bit i < 2 ^ n := by
  cases bit with
  | false => exact Nat.lt_of_le_of_lt (clearBits_le _ _) hIndex
  | true => exact or_two_pow_lt hIndex hPosition

/- A bit outside a mask does not decide whether it is held. -/
theorem holds_putBit_iff
    {mask position : Nat}
    (hOutside : mask.testBit position = false)
    (bit : Bool)
    (i : Nat) :
    Holds mask (putBit position bit i) ↔ Holds mask i := by
  apply holds_congr
  intro k hMask
  rw [testBit_putBit, if_neg]
  rintro rfl
  rw [hOutside] at hMask
  cases hMask

namespace StateVector

------------------------------------------------------------
-- Pairs
------------------------------------------------------------

/- One of the two amplitudes of a pair. -/
def side
    {R : Type}
    (bit : Bool)
    (pair : Amplitude R × Amplitude R) : Amplitude R :=
  if bit then pair.2 else pair.1

variable {R : Type}

@[simp] theorem side_false
    (pair : Amplitude R × Amplitude R) :
    side false pair = pair.1 :=
  rfl

@[simp] theorem side_true
    (pair : Amplitude R × Amplitude R) :
    side true pair = pair.2 :=
  rfl

/- The two amplitudes of the pair that an index belongs to. -/
def pairAt
    (target : Nat)
    (old : Nat → Amplitude R)
    (i : Nat) : Amplitude R × Amplitude R :=
  (old (putBit target false i), old (putBit target true i))

/- An index finds its own amplitude in its pair. -/
@[simp] theorem side_pairAt
    (target : Nat)
    (old : Nat → Amplitude R)
    (i : Nat) :
    side (i.testBit target) (pairAt target old i) = old i := by
  unfold side pairAt
  cases hBit : i.testBit target with
  | false =>
      rw [if_neg Bool.false_ne_true, ← hBit, putBit_testBit]
  | true => rw [if_pos rfl, ← hBit, putBit_testBit]

/- Both indices of a pair belong to it. -/
@[simp] theorem pairAt_putBit
    (target : Nat)
    (old : Nat → Amplitude R)
    (bit : Bool)
    (i : Nat) :
    pairAt target old (putBit target bit i) =
      pairAt target old i := by
  unfold pairAt
  rw [putBit_putBit, putBit_putBit]

variable {f : Amplitude R → Amplitude R → Amplitude R × Amplitude R}

/-
  Where the mask is held, an amplitude is its side of the image
  of its pair.
-/
theorem pairImage_eq
    (f : Amplitude R → Amplitude R → Amplitude R × Amplitude R)
    (mask target : Nat)
    (old : Nat → Amplitude R)
    (i : Nat) :
    pairImage f mask target old i =
      if Holds mask (putBit target false i) then
        side (i.testBit target)
          (f (pairAt target old i).1 (pairAt target old i).2)
      else
        old i := by
  unfold pairImage pairAt side putBit
  simp only [if_true, if_neg Bool.false_ne_true,
    clearBits_or_two_pow]

/- The image of a pair, where the mask is held. -/
theorem pairAt_pairImage_of_holds
    {mask target i : Nat}
    (hHolds : Holds mask (putBit target false i))
    (old : Nat → Amplitude R) :
    pairAt target (pairImage f mask target old) i =
      f (pairAt target old i).1 (pairAt target old i).2 := by
  apply Prod.ext
  · show pairImage f mask target old (putBit target false i) = _
    rw [pairImage_eq, putBit_putBit, if_pos hHolds,
      testBit_putBit_self, pairAt_putBit, side_false]
  · show pairImage f mask target old (putBit target true i) = _
    rw [pairImage_eq, putBit_putBit, if_pos hHolds,
      testBit_putBit_self, pairAt_putBit, side_true]

/- A pair stays as it is where the mask is not held. -/
theorem pairAt_pairImage_of_not_holds
    {mask target i : Nat}
    (hHolds : ¬ Holds mask (putBit target false i))
    (old : Nat → Amplitude R) :
    pairAt target (pairImage f mask target old) i =
      pairAt target old i := by
  unfold pairAt
  rw [pairImage_eq, pairImage_eq, putBit_putBit, putBit_putBit,
    if_neg hHolds, if_neg hHolds]

/- The image of an amplitude depends on its pair alone. -/
theorem pairImage_congr
    (f : Amplitude R → Amplitude R → Amplitude R × Amplitude R)
    (mask : Nat)
    {target i : Nat}
    {old old' : Nat → Amplitude R}
    (hPair : ∀ bit,
      old (putBit target bit i) = old' (putBit target bit i)) :
    pairImage f mask target old i =
      pairImage f mask target old' i := by
  have hAt := hPair (i.testBit target)
  rw [putBit_testBit] at hAt
  rw [pairImage_eq, pairImage_eq, hAt]
  simp only [pairAt, hPair]

------------------------------------------------------------
-- Gates
------------------------------------------------------------

variable [Scalar R]

/- What a gate does to the two amplitudes of a pair. -/
def gateAction
    (g : Gate R)
    (a b : Amplitude R) : Amplitude R × Amplitude R :=
  match g with
  | .i => (a, b)
  | .x => (b, a)
  | _ => (gateMatrix g).act a b

/-
  A gate acts on every pair that holds the mask, and on each of
  them alike.
-/
theorem amplitude_applyGate_eq
    (g : Gate R)
    (mask : Nat)
    {target : Nat}
    (s : StateVector R)
    (hTarget : target < s.qubitCount)
    {i : Nat}
    (hIndex : i < 2 ^ s.qubitCount) :
    (s.applyGate g mask target).amplitude i =
      pairImage (gateAction g) mask target s.amplitude i := by
  cases g with
  | i =>
      rw [pairImage_eq]
      exact (ite_eq_right_iff.mpr fun _ =>
        side_pairAt target s.amplitude i).symm
  | _ => exact amplitude_swept _ mask s hTarget hIndex

/- Of two gates, the second acts on what the first has left. -/
theorem amplitude_applyGate_applyGate
    (g g' : Gate R)
    (mask mask' : Nat)
    {target target' : Nat}
    (s : StateVector R)
    (hTarget : target < s.qubitCount)
    (hTarget' : target' < s.qubitCount)
    {i : Nat}
    (hIndex : i < 2 ^ s.qubitCount) :
    ((s.applyGate g mask target).applyGate g' mask'
        target').amplitude i =
      pairImage (gateAction g') mask' target'
        (pairImage (gateAction g) mask target s.amplitude) i := by
  rw [amplitude_applyGate_eq g' mask' _ (by simpa) (by simpa)]
  apply pairImage_congr
  intro bit
  exact amplitude_applyGate_eq g mask s hTarget
    (putBit_lt hTarget' bit hIndex)

end StateVector

end QuantumRuntime

import QuantumRuntime.Proofs.Simulator.BitPositions

/-
  This file says what each operation on state vectors does to
  the amplitude at every index. Gates sweep over the amplitudes
  in place; the result is the simultaneous update of all pairs.
  No law of the scalar arithmetic is used.

  Key definitions include:
    * `StateVector.pairImage`

  Key theorems include:
    * `StateVector.ext_amplitude`
    * `StateVector.amplitude_addQubit`
    * `StateVector.amplitude_removeQubit`
    * `StateVector.amplitude_swept`
    * `StateVector.amplitude_removeQubit_settled`
    * `StateVector.amplitude_collapse`
    * `StateVector.branchWeight_eq_foldl`
-/

namespace QuantumRuntime

namespace StateVector

variable {R : Type} [Scalar R]

------------------------------------------------------------
-- Amplitudes
------------------------------------------------------------

omit [Scalar R] in
/- There are as many amplitudes as indices of `n` bits. -/
theorem size_amplitudes
    (s : StateVector R) :
    s.amplitudes.size = 2 ^ s.qubitCount := by
  rw [s.size_eq, Nat.one_shiftLeft]

/- There is no amplitude past the last index. -/
theorem amplitude_of_le
    (s : StateVector R)
    {i : Nat}
    (hIndex : 2 ^ s.qubitCount ≤ i) :
    s.amplitude i = 0 := by
  have hSize : s.amplitudes.size ≤ i := by
    rw [s.size_amplitudes]
    exact hIndex
  simp [amplitude, Array.getElem?_eq_none hSize]

/- States with the same amplitudes are equal. -/
theorem ext_amplitude
    {s t : StateVector R}
    (hCount : s.qubitCount = t.qubitCount)
    (hAmplitude : ∀ i, i < 2 ^ s.qubitCount →
      s.amplitude i = t.amplitude i) :
    s = t := by
  have hArrays : s.amplitudes = t.amplitudes := by
    apply Array.ext
    · rw [s.size_amplitudes, t.size_amplitudes, hCount]
    · intro i hLeft hRight
      have hIndex := hAmplitude i (s.size_amplitudes ▸ hLeft)
      simpa [amplitude, hLeft, hRight] using hIndex
  cases s
  cases t
  cases hCount
  cases hArrays
  rfl

omit [Scalar R] in
@[simp] theorem qubitCount_tabulate
    (n : Nat)
    (f : Nat → Amplitude R) :
    (tabulate n f).qubitCount = n :=
  rfl

/- A tabulated state has the given amplitudes. -/
theorem amplitude_tabulate
    {n i : Nat}
    (f : Nat → Amplitude R)
    (hIndex : i < 2 ^ n) :
    (tabulate n f).amplitude i = f i := by
  simp [tabulate, amplitude, Nat.one_shiftLeft, hIndex]

/- The state without qubits has the amplitude one. -/
theorem amplitude_ground_zero :
    (ground 0 : StateVector R).amplitude 0 = 1 := by
  rw [ground, amplitude_tabulate _ (by simp), if_pos rfl]

------------------------------------------------------------
-- Adding and removing a qubit
------------------------------------------------------------

@[simp] theorem qubitCount_addQubit
    (s : StateVector R) :
    s.addQubit.qubitCount = s.qubitCount + 1 :=
  rfl

/- Adding a qubit keeps each amplitude and appends zeros. -/
theorem amplitude_addQubit
    (s : StateVector R)
    (i : Nat) :
    s.addQubit.amplitude i = s.amplitude i := by
  unfold addQubit amplitude
  rw [Array.getD_eq_getD_getElem?, Array.getD_eq_getD_getElem?,
    Array.getElem?_append]
  by_cases hIndex : i < s.amplitudes.size
  · rw [if_pos hIndex]
  · rw [if_neg hIndex,
      Array.getElem?_eq_none (Nat.le_of_not_lt hIndex),
      Array.getElem?_replicate]
    split <;> rfl

@[simp] theorem qubitCount_removeQubit
    (position : Nat)
    (s : StateVector R) :
    (s.removeQubit position).qubitCount = s.qubitCount - 1 :=
  rfl

/- Removing a qubit keeps the amplitudes where it is zero. -/
theorem amplitude_removeQubit
    (position : Nat)
    (s : StateVector R)
    {i : Nat}
    (hIndex : i < 2 ^ (s.qubitCount - 1)) :
    (s.removeQubit position).amplitude i =
      s.amplitude (insertBit position false i) := by
  rw [removeQubit, amplitude_tabulate _ hIndex,
    insertZeroBit_eq_insertBit]

------------------------------------------------------------
-- Gates
------------------------------------------------------------

/-
  The amplitude at an index after all pairs have been changed
  at once. A pair consists of an index that holds the control
  mask and has the target bit clear, and its partner.
-/
def pairImage
    (f : Amplitude R → Amplitude R → Amplitude R × Amplitude R)
    (mask target : Nat)
    (old : Nat → Amplitude R)
    (i : Nat) : Amplitude R :=
  let low := clearBits i (2 ^ target)
  let pair := f (old low) (old (low ||| 2 ^ target))
  if Holds mask low then
    if i.testBit target then pair.2 else pair.1
  else
    old i

/- Reading an array after a pair of indices has been changed. -/
private theorem getD_updatePair
    (f : Amplitude R → Amplitude R → Amplitude R × Amplitude R)
    {i j : Nat}
    (amplitudes : Array (Amplitude R))
    (hFirst : i < amplitudes.size)
    (hSecond : j < amplitudes.size)
    (k : Nat) :
    (updatePair f i j amplitudes).getD k 0 =
      if k = j then
        (f (amplitudes.getD i 0) (amplitudes.getD j 0)).2
      else if k = i then
        (f (amplitudes.getD i 0) (amplitudes.getD j 0)).1
      else
        amplitudes.getD k 0 := by
  unfold updatePair
  simp only [Array.getD_eq_getD_getElem?,
    Array.getElem?_setIfInBounds, Array.size_setIfInBounds]
  by_cases hSame : k = j
  · simp [hSame, hSecond]
  · by_cases hOther : k = i
    · subst hOther
      simp [hSame, hFirst, Ne.symm hSame]
    · simp [hSame, hOther, Ne.symm hSame, Ne.symm hOther]

/- The first steps of a sweep, one for each index below `n`. -/
def sweepTo
    (f : Amplitude R → Amplitude R → Amplitude R × Amplitude R)
    (mask target n : Nat)
    (amplitudes : Array (Amplitude R)) : Array (Amplitude R) :=
  Nat.fold n
    (fun i _ current =>
      if Holds mask i ∧ i &&& 2 ^ target = 0 then
        updatePair f i (i ||| 2 ^ target) current
      else
        current)
    amplitudes

/- A sweep takes a step for each index. -/
theorem sweep_eq_sweepTo
    (f : Amplitude R → Amplitude R → Amplitude R × Amplitude R)
    (mask target : Nat)
    (amplitudes : Array (Amplitude R)) :
    sweep f mask target amplitudes =
      sweepTo f mask target amplitudes.size amplitudes := by
  rw [sweep, Nat.one_shiftLeft]
  rfl

/- A step that starts a pair changes it. -/
theorem sweepTo_succ_of_pair
    (f : Amplitude R → Amplitude R → Amplitude R × Amplitude R)
    {mask target n : Nat}
    (amplitudes : Array (Amplitude R))
    (hPair : Holds mask n ∧ n.testBit target = false) :
    sweepTo f mask target (n + 1) amplitudes =
      updatePair f n (n ||| 2 ^ target)
        (sweepTo f mask target n amplitudes) := by
  have hStart : Holds mask n ∧ n &&& 2 ^ target = 0 :=
    ⟨hPair.1, (and_two_pow_eq_zero_iff n target).mpr hPair.2⟩
  rw [sweepTo, Nat.fold_succ, if_pos hStart]
  rfl

/- A step that starts no pair changes nothing. -/
theorem sweepTo_succ_of_not_pair
    (f : Amplitude R → Amplitude R → Amplitude R × Amplitude R)
    {mask target n : Nat}
    (amplitudes : Array (Amplitude R))
    (hPair : ¬ (Holds mask n ∧ n.testBit target = false)) :
    sweepTo f mask target (n + 1) amplitudes =
      sweepTo f mask target n amplitudes := by
  have hStart : ¬ (Holds mask n ∧ n &&& 2 ^ target = 0) :=
    fun hStart => hPair
      ⟨hStart.1, (and_two_pow_eq_zero_iff n target).mp hStart.2⟩
  rw [sweepTo, Nat.fold_succ, if_neg hStart]
  rfl

theorem size_sweepTo
    (f : Amplitude R → Amplitude R → Amplitude R × Amplitude R)
    (mask target n : Nat)
    (amplitudes : Array (Amplitude R)) :
    (sweepTo f mask target n amplitudes).size =
      amplitudes.size := by
  induction n with
  | zero => rfl
  | succ n ih =>
      by_cases hPair : Holds mask n ∧ n.testBit target = false
      · rw [sweepTo_succ_of_pair f amplitudes hPair]
        simpa [updatePair] using ih
      · rw [sweepTo_succ_of_not_pair f amplitudes hPair, ih]

/-
  The first `n` steps of a sweep have changed the pairs whose
  lower index is below `n`, each from its old amplitudes, and
  nothing else.
-/
theorem getD_sweepTo
    (f : Amplitude R → Amplitude R → Amplitude R × Amplitude R)
    (mask : Nat)
    {target count : Nat}
    (hTarget : target < count)
    (amplitudes : Array (Amplitude R))
    (hSize : amplitudes.size = 2 ^ count)
    (n : Nat)
    (hSteps : n ≤ 2 ^ count)
    {k : Nat}
    (hIndex : k < 2 ^ count) :
    (sweepTo f mask target n amplitudes).getD k 0 =
      if clearBits k (2 ^ target) < n then
        pairImage f mask target (amplitudes.getD · 0) k
      else
        amplitudes.getD k 0 := by
  induction n generalizing k with
  | zero => rfl
  | succ n ih =>
      have hValues := @ih (by omega)
      have hLow : n < 2 ^ count := by omega
      have hHigh : n ||| 2 ^ target < 2 ^ count :=
        or_two_pow_lt hLow hTarget
      by_cases hPair : Holds mask n ∧ n.testBit target = false
      · -- Step `n` reads the pair before any step has changed it.
        rcases hPair with ⟨hHolds, hClear⟩
        have hFixed := clearBits_two_pow_of_clear hClear
        have hLowOld := hValues hLow
        have hHighOld := hValues hHigh
        rw [hFixed, if_neg (Nat.lt_irrefl n)] at hLowOld
        rw [clearBits_or_self, hFixed,
          if_neg (Nat.lt_irrefl n)] at hHighOld
        have hSwept :
            (sweepTo f mask target n amplitudes).size =
              2 ^ count := by
          rw [size_sweepTo, hSize]
        rw [sweepTo_succ_of_pair f amplitudes ⟨hHolds, hClear⟩,
          getD_updatePair f _ (by omega) (by omega),
          hLowOld, hHighOld]
        by_cases hChanged : clearBits k (2 ^ target) = n
        · rw [if_pos (by omega : clearBits k (2 ^ target) < n + 1)]
          simp only [pairImage, hChanged, if_pos hHolds]
          rcases (clearBits_two_pow_eq_iff hClear k).mp
              hChanged with rfl | rfl
          · have hPartner : k ≠ k ||| 2 ^ target := by
              intro hEq
              have hBit := congrArg (Nat.testBit · target) hEq
              simp [Nat.testBit_or, hClear] at hBit
            rw [if_neg hPartner, if_pos rfl, hClear]
            rfl
          · rw [if_pos rfl]
            simp [Nat.testBit_or]
        · have hNot : ¬ (k = n ∨ k = n ||| 2 ^ target) :=
            fun hEq => hChanged
              ((clearBits_two_pow_eq_iff hClear k).mpr hEq)
          have hLess :
              clearBits k (2 ^ target) < n + 1 ↔
                clearBits k (2 ^ target) < n := by
            omega
          rw [if_neg (fun hEq => hNot (Or.inr hEq)),
            if_neg (fun hEq => hNot (Or.inl hEq)),
            hValues hIndex]
          simp only [hLess]
      · -- An index that starts no pair changes nothing.
        rw [sweepTo_succ_of_not_pair f amplitudes hPair,
          hValues hIndex]
        by_cases hChanged : clearBits k (2 ^ target) = n
        · have hClear : n.testBit target = false := by
            rw [← hChanged, testBit_clearBits]
            simp
          have hHolds : ¬ Holds mask n :=
            fun hHolds => hPair ⟨hHolds, hClear⟩
          simp [pairImage, hChanged, hHolds]
        · have hLess :
              clearBits k (2 ^ target) < n + 1 ↔
                clearBits k (2 ^ target) < n := by
            omega
          simp only [hLess]

@[simp] theorem qubitCount_swept
    (f : Amplitude R → Amplitude R → Amplitude R × Amplitude R)
    (mask target : Nat)
    (s : StateVector R) :
    (s.swept f mask target).qubitCount = s.qubitCount :=
  rfl

/- A sweep changes all pairs at once. -/
theorem amplitude_swept
    (f : Amplitude R → Amplitude R → Amplitude R × Amplitude R)
    (mask : Nat)
    {target : Nat}
    (s : StateVector R)
    (hTarget : target < s.qubitCount)
    {i : Nat}
    (hIndex : i < 2 ^ s.qubitCount) :
    (s.swept f mask target).amplitude i =
      pairImage f mask target s.amplitude i := by
  have hLow : clearBits i (2 ^ target) < 2 ^ s.qubitCount :=
    Nat.lt_of_le_of_lt (clearBits_le _ _) hIndex
  have hSwept :=
    getD_sweepTo f mask hTarget s.amplitudes s.size_amplitudes
      (2 ^ s.qubitCount) (Nat.le_refl _) hIndex
  rw [if_pos hLow, ← s.size_amplitudes, ← sweep_eq_sweepTo] at hSwept
  exact hSwept

@[simp] theorem qubitCount_applyGate
    (g : Gate R)
    (mask target : Nat)
    (s : StateVector R) :
    (s.applyGate g mask target).qubitCount = s.qubitCount := by
  cases g <;> rfl

/- The flip exchanges the amplitudes of each pair. -/
theorem amplitude_applyGate_x
    {position : Nat}
    (s : StateVector R)
    (hPosition : position < s.qubitCount)
    {i : Nat}
    (hIndex : i < 2 ^ s.qubitCount) :
    (s.applyGate .x 0 position).amplitude i =
      if i.testBit position then
        s.amplitude (clearBits i (2 ^ position))
      else
        s.amplitude (i ||| 2 ^ position) := by
  have hAll : ∀ j, Holds 0 j := by
    intro j
    simp [Holds]
  rw [applyGate, amplitude_swept _ _ s hPosition hIndex,
    pairImage, if_pos (hAll _), clearBits_or_two_pow]

/-
  Removing a qubit that was brought from some bit to zero keeps
  the amplitudes where it had that bit.
-/
theorem amplitude_removeQubit_settled
    {position : Nat}
    (s : StateVector R)
    (hPosition : position < s.qubitCount)
    (bit : Bool)
    {j : Nat}
    (hIndex : j < 2 ^ (s.qubitCount - 1)) :
    ((if bit then s.applyGate .x 0 position else s).removeQubit
        position).amplitude j =
      s.amplitude (insertBit position bit j) := by
  cases bit with
  | false =>
      rw [if_neg Bool.false_ne_true,
        amplitude_removeQubit _ _ hIndex]
  | true =>
      have hLow : insertBit position false j < 2 ^ s.qubitCount :=
        insertBit_lt hPosition false hIndex
      rw [if_pos rfl,
        amplitude_removeQubit _ _ (by simpa using hIndex),
        amplitude_applyGate_x s hPosition hLow,
        testBit_insertBit_self, if_neg Bool.false_ne_true,
        insertBit_or_two_pow]

------------------------------------------------------------
-- Measurement
------------------------------------------------------------

/- The sum over the indices that pass a test, as a fold of them. -/
theorem sumOver_eq_foldl
    (n : Nat)
    (test : Nat → Bool)
    (term : Nat → R) :
    sumOver n test term =
      ((List.range n).filter test).foldl
        (fun sum i => sum + term i) 0 := by
  unfold sumOver
  induction n with
  | zero => rfl
  | succ n ih =>
      rw [Nat.fold_succ, ih, List.range_succ, List.filter_append,
        List.foldl_append]
      cases hTest : test n <;> simp [hTest]

/- The weight of a branch adds up its amplitudes in order. -/
theorem branchWeight_eq_foldl
    (position : Nat)
    (outcome : Bool)
    (s : StateVector R) :
    s.branchWeight position outcome =
      ((List.range (2 ^ s.qubitCount)).filter
          fun i => i.testBit position = outcome).foldl
        (fun sum i => sum + (s.amplitude i).normSq) 0 := by
  rw [branchWeight, Nat.one_shiftLeft, sumOver_eq_foldl]

@[simp] theorem qubitCount_collapse
    (position : Nat)
    (outcome : Bool)
    (s : StateVector R) :
    (s.collapse position outcome).qubitCount = s.qubitCount := by
  unfold collapse
  dsimp only
  split <;> rfl

/- Scale an amplitude down to a norm that is positive. -/
def normalized
    (norm : R)
    (a : Amplitude R) : Amplitude R :=
  if Scalar.less 0 norm then a.divScalar norm else a

/-
  A collapse keeps the amplitudes of the branch, scaled by its
  norm, and makes the others zero before they are scaled.
-/
theorem amplitude_collapse
    (position : Nat)
    (outcome : Bool)
    (s : StateVector R)
    {i : Nat}
    (hIndex : i < 2 ^ s.qubitCount) :
    (s.collapse position outcome).amplitude i =
      normalized (Scalar.sqrt (s.branchWeight position outcome))
        (if i.testBit position = outcome then
          s.amplitude i
        else
          0) := by
  unfold collapse normalized
  dsimp only
  split
  · rw [amplitude_tabulate _ hIndex]
  · rw [amplitude_tabulate _ hIndex]

end StateVector

end QuantumRuntime

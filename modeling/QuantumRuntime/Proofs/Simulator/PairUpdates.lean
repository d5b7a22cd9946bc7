import QuantumRuntime.Proofs.Simulator.GatePairs

/-
  This file proves that a gate, which changes the amplitudes in
  place and one pair after the other, is the update of all
  pairs at once. A pair consists of an index that has the
  target bit clear and holds the control mask, and the index
  `2 ^ target` above it. No law of the scalar arithmetic is
  used.

  Key definitions include:
    * `StartsPair`
    * `StateVector.UpdatedAtOnce`

  Key theorems include:
    * `or_two_pow_of_clear`
    * `exists_startsPair_of_holds`
    * `not_startsPair_of_outside`
    * `StateVector.updatedAtOnce_applyGate`
    * `StateVector.UpdatedAtOnce.unique`
    * `StateVector.gate_updates_all_pairs_at_once`
-/

namespace QuantumRuntime

------------------------------------------------------------
-- The indices of a pair
------------------------------------------------------------

/- Setting a bit that is clear adds its value to the index. -/
theorem or_two_pow_of_clear
    {i k : Nat}
    (hClear : i.testBit k = false) :
    i ||| 2 ^ k = i + 2 ^ k := by
  have hIndex : insertBit k false (deleteBit k i) = i := by
    rw [← hClear, insertBit_deleteBit]
  rw [← hIndex, insertBit_or_two_pow]
  simp only [insertBit, Bool.toNat_true, Bool.toNat_false]
  ring

theorem putBit_false_of_clear
    {target i : Nat}
    (hClear : i.testBit target = false) :
    putBit target false i = i :=
  clearBits_two_pow_of_clear hClear

theorem putBit_true_of_clear
    {target i : Nat}
    (hClear : i.testBit target = false) :
    putBit target true i = i + 2 ^ target :=
  or_two_pow_of_clear hClear

/-
  An index of `n` bits starts a pair when it has the target bit
  clear and holds the control mask.
-/
def StartsPair
    (n mask target i : Nat) : Prop :=
  i < 2 ^ n ∧ i.testBit target = false ∧ Holds mask i

instance
    (n mask target i : Nat) :
    Decidable (StartsPair n mask target i) := by
  unfold StartsPair
  infer_instance

/-
  An index belongs to a pair when it holds the mask once its
  target bit is cleared.
-/
theorem exists_startsPair_of_holds
    {n mask target k : Nat}
    (hIndex : k < 2 ^ n)
    (hHolds : Holds mask (putBit target false k)) :
    ∃ i, StartsPair n mask target i ∧
      (k = i ∨ k = i + 2 ^ target) := by
  have hClear := testBit_putBit_self target false k
  have hLow : putBit target false k < 2 ^ n :=
    Nat.lt_of_le_of_lt (clearBits_le _ _) hIndex
  refine ⟨putBit target false k, ⟨hLow, hClear, hHolds⟩, ?_⟩
  rw [← putBit_true_of_clear hClear, putBit_putBit]
  cases hBit : k.testBit target with
  | false => exact Or.inl (putBit_false_of_clear hBit).symm
  | true => exact Or.inr (or_two_pow_of_set hBit).symm

/-
  No index starts a pair when the mask contains the target bit
  or a bit past the last qubit.
-/
theorem not_startsPair_of_outside
    {n mask target : Nat}
    (hOutside :
      mask.testBit target = true ∨
        ∃ k, n ≤ k ∧ mask.testBit k = true)
    (i : Nat) :
    ¬ StartsPair n mask target i := by
  rintro ⟨hIndex, hClear, hHolds⟩
  have hBits := (holds_iff mask i).mp hHolds
  rcases hOutside with hTarget | ⟨k, hPast, hMask⟩
  · rw [hBits target hTarget] at hClear
    cases hClear
  · have hSmall : i < 2 ^ k :=
      Nat.lt_of_lt_of_le hIndex
        (Nat.pow_le_pow_right (by omega) hPast)
    have hBit := hBits k hMask
    rw [Nat.testBit_lt_two_pow hSmall] at hBit
    cases hBit

namespace StateVector

variable {R : Type} [Scalar R]

------------------------------------------------------------
-- The update of all pairs
------------------------------------------------------------

/-
  How a state vector relates to the one before all pairs were
  updated at once. The right-hand sides read the old amplitudes
  only.
-/
structure UpdatedAtOnce
    (g : Gate R)
    (mask target : Nat)
    (s s' : StateVector R) : Prop where
  size_eq :
    s'.amplitudes.size = s.amplitudes.size
  kept :
    g = .i → s' = s
  exchanged :
    g = .x → ∀ i, StartsPair s.qubitCount mask target i →
      s'.amplitude i = s.amplitude (i + 2 ^ target) ∧
        s'.amplitude (i + 2 ^ target) = s.amplitude i
  mixed :
    g ≠ .i → g ≠ .x →
      ∀ i, StartsPair s.qubitCount mask target i →
        s'.amplitude i =
            (gateMatrix g).m00 * s.amplitude i +
              (gateMatrix g).m01 * s.amplitude (i + 2 ^ target) ∧
          s'.amplitude (i + 2 ^ target) =
            (gateMatrix g).m10 * s.amplitude i +
              (gateMatrix g).m11 * s.amplitude (i + 2 ^ target)
  others_eq :
    ∀ k,
      (∀ i, StartsPair s.qubitCount mask target i →
        k ≠ i ∧ k ≠ i + 2 ^ target) →
      s'.amplitude k = s.amplitude k

/- Every gate but the identity and the flip acts by its matrix. -/
theorem gateAction_of_ne
    {g : Gate R}
    (hIdentity : g ≠ .i)
    (hFlip : g ≠ .x)
    (a b : Amplitude R) :
    gateAction g a b = (gateMatrix g).act a b := by
  cases g with
  | i => exact absurd rfl hIdentity
  | x => exact absurd rfl hFlip
  | _ => rfl

/- A gate takes a pair to the image of its old amplitudes. -/
theorem amplitude_applyGate_of_startsPair
    (g : Gate R)
    {mask target i : Nat}
    (s : StateVector R)
    (hTarget : target < s.qubitCount)
    (hStart : StartsPair s.qubitCount mask target i)
    (bit : Bool) :
    (s.applyGate g mask target).amplitude
        (putBit target bit i) =
      side bit
        (gateAction g (s.amplitude i)
          (s.amplitude (i + 2 ^ target))) := by
  rcases hStart with ⟨hIndex, hClear, hHolds⟩
  have hLow := putBit_false_of_clear hClear
  rw [amplitude_applyGate_eq g mask s hTarget
      (putBit_lt hTarget bit hIndex),
    pairImage_eq, putBit_putBit, pairAt_putBit,
    testBit_putBit_self, hLow, if_pos hHolds, pairAt, hLow,
    putBit_true_of_clear hClear]

/- A gate leaves alone what belongs to no pair. -/
theorem amplitude_applyGate_of_no_pair
    (g : Gate R)
    {mask target k : Nat}
    (s : StateVector R)
    (hTarget : target < s.qubitCount)
    (hOutside : ∀ i, StartsPair s.qubitCount mask target i →
      k ≠ i ∧ k ≠ i + 2 ^ target) :
    (s.applyGate g mask target).amplitude k = s.amplitude k := by
  by_cases hIndex : k < 2 ^ s.qubitCount
  · rw [amplitude_applyGate_eq g mask s hTarget hIndex,
      pairImage_eq, if_neg]
    intro hHolds
    rcases exists_startsPair_of_holds hIndex hHolds with
      ⟨i, hStart, hLow | hHigh⟩
    · exact (hOutside i hStart).1 hLow
    · exact (hOutside i hStart).2 hHigh
  · rw [s.amplitude_of_le (by omega),
      amplitude_of_le _
        (by rw [qubitCount_applyGate]; omega)]

/- A gate updates all pairs at once. -/
theorem updatedAtOnce_applyGate
    (g : Gate R)
    (mask : Nat)
    {target : Nat}
    (s : StateVector R)
    (hTarget : target < s.qubitCount) :
    UpdatedAtOnce g mask target s (s.applyGate g mask target) := by
  have hPair :
      ∀ i, StartsPair s.qubitCount mask target i →
        (s.applyGate g mask target).amplitude i =
            (gateAction g (s.amplitude i)
              (s.amplitude (i + 2 ^ target))).1 ∧
          (s.applyGate g mask target).amplitude
              (i + 2 ^ target) =
            (gateAction g (s.amplitude i)
              (s.amplitude (i + 2 ^ target))).2 := by
    intro i hStart
    have hLow :=
      amplitude_applyGate_of_startsPair g s hTarget hStart false
    have hHigh :=
      amplitude_applyGate_of_startsPair g s hTarget hStart true
    rw [putBit_false_of_clear hStart.2.1] at hLow
    rw [putBit_true_of_clear hStart.2.1] at hHigh
    exact ⟨hLow, hHigh⟩
  refine
    { size_eq := ?_
      kept := ?_
      exchanged := ?_
      mixed := ?_
      others_eq := ?_ }
  · rw [size_amplitudes, size_amplitudes, qubitCount_applyGate]
  · rintro rfl
    rfl
  · rintro rfl i hStart
    exact hPair i hStart
  · intro hIdentity hFlip i hStart
    have hImage := hPair i hStart
    rw [gateAction_of_ne hIdentity hFlip] at hImage
    exact hImage
  · intro k hOutside
    exact amplitude_applyGate_of_no_pair g s hTarget hOutside

namespace UpdatedAtOnce

variable
  {g : Gate R}
  {mask target : Nat}
  {s t t' : StateVector R}

/- An update keeps the number of qubits. -/
theorem qubitCount_eq
    (hUpdated : UpdatedAtOnce g mask target s t) :
    t.qubitCount = s.qubitCount := by
  have hSize := hUpdated.size_eq
  rw [size_amplitudes, size_amplitudes] at hSize
  exact Nat.pow_right_injective (Nat.le_refl 2) hSize

/- Two updates of one vector agree on every pair. -/
theorem amplitude_eq_of_startsPair
    (hUpdated : UpdatedAtOnce g mask target s t)
    (hUpdated' : UpdatedAtOnce g mask target s t')
    {i : Nat}
    (hStart : StartsPair s.qubitCount mask target i) :
    t.amplitude i = t'.amplitude i ∧
      t.amplitude (i + 2 ^ target) =
        t'.amplitude (i + 2 ^ target) := by
  by_cases hIdentity : g = .i
  · rw [hUpdated.kept hIdentity, hUpdated'.kept hIdentity]
    exact ⟨rfl, rfl⟩
  · by_cases hFlip : g = .x
    · have hPair := hUpdated.exchanged hFlip i hStart
      have hPair' := hUpdated'.exchanged hFlip i hStart
      exact ⟨hPair.1.trans hPair'.1.symm,
        hPair.2.trans hPair'.2.symm⟩
    · have hPair := hUpdated.mixed hIdentity hFlip i hStart
      have hPair' := hUpdated'.mixed hIdentity hFlip i hStart
      exact ⟨hPair.1.trans hPair'.1.symm,
        hPair.2.trans hPair'.2.symm⟩

/- There is only one update of all pairs. -/
theorem unique
    (hUpdated : UpdatedAtOnce g mask target s t)
    (hUpdated' : UpdatedAtOnce g mask target s t') :
    t = t' := by
  have hCount : t.qubitCount = t'.qubitCount :=
    hUpdated.qubitCount_eq.trans hUpdated'.qubitCount_eq.symm
  refine ext_amplitude hCount fun k _ => ?_
  by_cases hInside :
      ∃ i, StartsPair s.qubitCount mask target i ∧
        (k = i ∨ k = i + 2 ^ target)
  · rcases hInside with ⟨i, hStart, hPlace⟩
    have hPair :=
      hUpdated.amplitude_eq_of_startsPair hUpdated' hStart
    rcases hPlace with rfl | rfl
    · exact hPair.1
    · exact hPair.2
  · have hOutside :
        ∀ i, StartsPair s.qubitCount mask target i →
          k ≠ i ∧ k ≠ i + 2 ^ target :=
      fun i hStart =>
        ⟨fun hLow => hInside ⟨i, hStart, Or.inl hLow⟩,
          fun hHigh => hInside ⟨i, hStart, Or.inr hHigh⟩⟩
    rw [hUpdated.others_eq k hOutside,
      hUpdated'.others_eq k hOutside]

/- An update without pairs changes nothing. -/
theorem eq_of_no_pairs
    (hUpdated : UpdatedAtOnce g mask target s t)
    (hNone : ∀ i, ¬ StartsPair s.qubitCount mask target i) :
    t = s :=
  ext_amplitude hUpdated.qubitCount_eq fun k _ =>
    hUpdated.others_eq k fun i hStart => absurd hStart (hNone i)

end UpdatedAtOnce

/-
  A gate is the update of all pairs at once, under every mask,
  and there is no other such update. A mask that contains the
  target bit or a bit past the last qubit selects no pair, so
  that nothing changes.
-/
theorem gate_updates_all_pairs_at_once
    (g : Gate R)
    (mask : Nat)
    {target : Nat}
    (s : StateVector R)
    (hTarget : target < s.qubitCount) :
    UpdatedAtOnce g mask target s (s.applyGate g mask target) ∧
      (∀ s', UpdatedAtOnce g mask target s s' →
        s' = s.applyGate g mask target) ∧
      ((mask.testBit target = true ∨
          ∃ k, s.qubitCount ≤ k ∧ mask.testBit k = true) →
        s.applyGate g mask target = s) := by
  have hUpdated := updatedAtOnce_applyGate g mask s hTarget
  refine ⟨hUpdated, ?_, ?_⟩
  · intro s' hUpdated'
    exact hUpdated'.unique hUpdated
  · intro hOutside
    exact hUpdated.eq_of_no_pairs
      (not_startsPair_of_outside hOutside)

/-
  Of three qubits the last one controls a Hadamard gate on the
  middle one. The pair of the indices four and six is mixed and
  the amplitude at index one stays. With the middle qubit or a
  fourth one among the controls, nothing changes.
-/
theorem controlled_hadamard_mixes_one_pair :
    let s : StateVector Float :=
      tabulate 3 fun i => Amplitude.ofReal (Float.ofNat i)
    let r : Amplitude Float := Amplitude.ofReal Scalar.invSqrtTwo
    1 < s.qubitCount ∧
      (s.applyGate .h 4 1).amplitude 4 =
        r * s.amplitude 4 + r * s.amplitude 6 ∧
      (s.applyGate .h 4 1).amplitude 6 =
        r * s.amplitude 4 + -r * s.amplitude 6 ∧
      (s.applyGate .h 4 1).amplitude 1 = s.amplitude 1 ∧
      s.applyGate .h 6 1 = s ∧
      s.applyGate .h 12 1 = s := by
  intro s r
  have hTarget : 1 < s.qubitCount := by decide
  have hUpdated :=
    (gate_updates_all_pairs_at_once .h 4 s hTarget).1
  have hPair :=
    hUpdated.mixed (by nofun) (by nofun) 4 (by decide)
  have hOutside :
      ∀ i, StartsPair s.qubitCount 4 1 i →
        1 ≠ i ∧ 1 ≠ i + 2 ^ 1 := by
    rintro i ⟨_, _, hHolds⟩
    have hLarge : i &&& 4 ≤ i := Nat.and_le_left
    rw [show i &&& 4 = 4 from hHolds] at hLarge
    omega
  exact ⟨hTarget, hPair.1, hPair.2,
    hUpdated.others_eq 1 hOutside,
    (gate_updates_all_pairs_at_once .h 6 s hTarget).2.2
      (Or.inl (by decide)),
    (gate_updates_all_pairs_at_once .h 12 s hTarget).2.2
      (Or.inr ⟨3, by decide, by decide⟩)⟩

end StateVector

end QuantumRuntime

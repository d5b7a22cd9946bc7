import QuantumRuntime.Proofs.ExactReal
import QuantumRuntime.Proofs.Simulator.Amplitudes

/-
  This file follows basis states through the operations on
  state vectors, over the real numbers. A basis state has one
  amplitude that is not zero. Gates that are diagonal or flip a
  bit move it, and measuring it is certain and changes nothing.

  Key definitions include:
    * `StateVector.BasisAt`

  Key theorems include:
    * `StateVector.BasisAt.applyGate`
    * `StateVector.BasisAt.branchWeight_eq`
    * `StateVector.BasisAt.collapse_eq`
-/

namespace QuantumRuntime

/- No gate is diagonal and flips a bit. -/
theorem Gate.IsDiagonal.not_isBitFlip
    {R : Type}
    {g : Gate R}
    (hDiagonal : g.IsDiagonal) :
    ¬ g.IsBitFlip := by
  cases g with
  | x | y => exact hDiagonal.elim
  | _ => exact id

namespace StateVector

------------------------------------------------------------
-- Basis states
------------------------------------------------------------

/- The amplitude at one index is a phase and the others are zero. -/
structure BasisAt
    (s : StateVector ℝ)
    (k : Nat) : Prop where
  index_lt :
    k < 2 ^ s.qubitCount
  unit :
    (s.amplitude k).normSq = 1
  zero_of_ne :
    ∀ i, i ≠ k → s.amplitude i = 0

/- The index of a basis state is the one that is not zero. -/
theorem BasisAt.ne_zero_iff
    {s : StateVector ℝ}
    {k : Nat}
    (hBasis : s.BasisAt k)
    (i : Nat) :
    s.amplitude i ≠ 0 ↔ i = k := by
  constructor
  · intro hNonzero
    by_contra hOther
    exact hNonzero (hBasis.zero_of_ne i hOther)
  · rintro rfl
    exact Amplitude.ne_zero_of_normSq hBasis.unit

/- The state without qubits is a basis state. -/
theorem basisAt_ground_zero :
    (ground 0 : StateVector ℝ).BasisAt 0 := by
  refine ⟨by simp, ?_, ?_⟩
  · rw [amplitude_ground_zero, Amplitude.normSq_one]
  · intro i hOther
    apply amplitude_of_le
    show 2 ^ 0 ≤ i
    omega

/-
  A state whose amplitudes are those of a basis state, taken
  from other indices and up to phases, is a basis state.
-/
theorem BasisAt.of_source
    {s t : StateVector ℝ}
    {k k' : Nat}
    (hBasis : s.BasisAt k)
    (hIndex : k' < 2 ^ t.qubitCount)
    (source : Nat → Nat)
    (hAmplitude : ∀ i, i < 2 ^ t.qubitCount →
      ∃ phase : Amplitude ℝ, phase.normSq = 1 ∧
        t.amplitude i = phase * s.amplitude (source i))
    (hSource : ∀ i, i < 2 ^ t.qubitCount →
      (source i = k ↔ i = k')) :
    t.BasisAt k' := by
  refine ⟨hIndex, ?_, ?_⟩
  · rcases hAmplitude k' hIndex with ⟨phase, hUnit, hValue⟩
    rw [hValue, (hSource k' hIndex).mpr rfl,
      Amplitude.normSq_mul, hUnit, hBasis.unit, mul_one]
  · intro i hOther
    by_cases hBound : i < 2 ^ t.qubitCount
    · rcases hAmplitude i hBound with ⟨phase, _, hValue⟩
      have hMissed : source i ≠ k :=
        fun hEq => hOther ((hSource i hBound).mp hEq)
      rw [hValue, hBasis.zero_of_ne _ hMissed, Amplitude.mul_zero]
    · exact t.amplitude_of_le (Nat.le_of_not_lt hBound)

/- Adding a qubit that is zero keeps the index. -/
theorem BasisAt.addQubit
    {s : StateVector ℝ}
    {k : Nat}
    (hBasis : s.BasisAt k) :
    s.addQubit.BasisAt k := by
  refine ⟨?_, ?_, ?_⟩
  · exact Nat.lt_of_lt_of_le hBasis.index_lt
      (Nat.pow_le_pow_right (by omega) (by simp))
  · rw [amplitude_addQubit, hBasis.unit]
  · intro i hOther
    rw [amplitude_addQubit, hBasis.zero_of_ne i hOther]

------------------------------------------------------------
-- Gates
------------------------------------------------------------

/- Apart from the identity, a gate acts by its matrix. -/
theorem amplitude_applyGate
    {g : Gate ℝ}
    (hGate : g ≠ .i)
    (mask : Nat)
    {target : Nat}
    (s : StateVector ℝ)
    (hTarget : target < s.qubitCount)
    {i : Nat}
    (hIndex : i < 2 ^ s.qubitCount) :
    (s.applyGate g mask target).amplitude i =
      pairImage (gateMatrix g).act mask target s.amplitude i := by
  cases g with
  | i => exact absurd rfl hGate
  | x =>
      have hExchange :
          (fun a b : Amplitude ℝ => (b, a)) =
            (gateMatrix .x).act := by
        funext a b
        rw [gateMatrix, GateMatrix.act_exchange,
          Amplitude.one_mul, Amplitude.one_mul]
      rw [applyGate, hExchange]
      exact amplitude_swept _ mask s hTarget hIndex
  | _ => exact amplitude_swept _ mask s hTarget hIndex

/- A pair that is kept up to phases keeps each amplitude. -/
theorem pairImage_of_diagonal
    {f : Amplitude ℝ → Amplitude ℝ → Amplitude ℝ × Amplitude ℝ}
    {u v : Amplitude ℝ}
    (hU : u.normSq = 1)
    (hV : v.normSq = 1)
    (hAct : ∀ a b, f a b = (u * a, v * b))
    (mask target : Nat)
    (old : Nat → Amplitude ℝ)
    (i : Nat) :
    ∃ phase : Amplitude ℝ, phase.normSq = 1 ∧
      pairImage f mask target old i = phase * old i := by
  simp only [pairImage, hAct]
  split
  · cases hBit : i.testBit target with
    | false =>
        refine ⟨u, hU, ?_⟩
        rw [if_neg Bool.false_ne_true,
          clearBits_two_pow_of_clear hBit]
    | true =>
        refine ⟨v, hV, ?_⟩
        rw [if_pos rfl, clearBits_or_two_pow,
          or_two_pow_of_set hBit]
  · exact ⟨1, Amplitude.normSq_one, (Amplitude.one_mul _).symm⟩

/- A pair that is exchanged moves amplitudes under the mask. -/
theorem pairImage_of_exchange
    {f : Amplitude ℝ → Amplitude ℝ → Amplitude ℝ × Amplitude ℝ}
    {u v : Amplitude ℝ}
    (hU : u.normSq = 1)
    (hV : v.normSq = 1)
    (hAct : ∀ a b, f a b = (u * b, v * a))
    {mask target : Nat}
    (hOutside : mask.testBit target = false)
    (old : Nat → Amplitude ℝ)
    (i : Nat) :
    ∃ phase : Amplitude ℝ, phase.normSq = 1 ∧
      pairImage f mask target old i =
        phase * old (flipUnder mask target i) := by
  have hHolds :
      Holds mask (clearBits i (2 ^ target)) ↔ Holds mask i := by
    apply holds_congr
    intro k hMask
    have hOther : target ≠ k := by
      rintro rfl
      rw [hOutside] at hMask
      cases hMask
    simp [hOther]
  simp only [pairImage, hAct, hHolds, flipUnder]
  split
  · cases hBit : i.testBit target with
    | false =>
        have hPartner : i ||| 2 ^ target = i ^^^ 2 ^ target := by
          apply Nat.eq_of_testBit_eq
          intro k
          rw [Nat.testBit_or, Nat.testBit_xor, Nat.testBit_two_pow]
          by_cases hTarget : target = k
          · simp [← hTarget, hBit]
          · simp [hTarget]
        refine ⟨u, hU, ?_⟩
        rw [if_neg Bool.false_ne_true, clearBits_or_two_pow,
          hPartner]
    | true =>
        have hPartner :
            clearBits i (2 ^ target) = i ^^^ 2 ^ target := by
          apply Nat.eq_of_testBit_eq
          intro k
          rw [testBit_clearBits, Nat.testBit_xor,
            Nat.testBit_two_pow]
          by_cases hTarget : target = k
          · simp [← hTarget, hBit]
          · simp [hTarget]
        refine ⟨v, hV, ?_⟩
        rw [if_pos rfl, hPartner]
  · exact ⟨1, Amplitude.normSq_one, (Amplitude.one_mul _).symm⟩

/-
  A gate that is diagonal or flips a bit takes basis states to
  basis states. The target bit is flipped where a bit flip
  finds all controls set, and otherwise the index stays.
-/
theorem BasisAt.applyGate
    {s : StateVector ℝ}
    {k : Nat}
    (hBasis : s.BasisAt k)
    {g : Gate ℝ}
    (hClassical : g.IsBitFlip ∨ g.IsDiagonal)
    {mask target : Nat}
    (hTarget : target < s.qubitCount)
    (hOutside : mask.testBit target = false) :
    (s.applyGate g mask target).BasisAt
      (if g.IsBitFlip then flipUnder mask target k else k) := by
  have hCount := qubitCount_applyGate g mask target s
  rcases hClassical with hFlip | hDiagonal
  · have hGate : g ≠ .i := by
      rintro rfl
      exact hFlip
    rcases act_of_isBitFlip hFlip with ⟨u, v, hU, hV, hAct⟩
    have hBound :
        flipUnder mask target k <
          2 ^ (s.applyGate g mask target).qubitCount := by
      rw [hCount]
      exact flipUnder_lt hTarget hBasis.index_lt
    rw [if_pos hFlip]
    refine hBasis.of_source hBound (flipUnder mask target) ?_ ?_
    · intro i hIndex
      rw [hCount] at hIndex
      rw [amplitude_applyGate hGate mask s hTarget hIndex]
      exact pairImage_of_exchange hU hV hAct hOutside _ i
    · intro i _
      constructor
      · rintro rfl
        exact (flipUnder_flipUnder hOutside i).symm
      · rintro rfl
        exact flipUnder_flipUnder hOutside k
  · rw [if_neg hDiagonal.not_isBitFlip]
    by_cases hGate : g = .i
    · subst hGate
      exact hBasis
    · rcases act_of_isDiagonal hDiagonal with ⟨u, v, hU, hV, hAct⟩
      refine hBasis.of_source ?_ id ?_ (fun i _ => Iff.rfl)
      · rw [hCount]
        exact hBasis.index_lt
      · intro i hIndex
        rw [hCount] at hIndex
        rw [amplitude_applyGate hGate mask s hTarget hIndex]
        exact pairImage_of_diagonal hU hV hAct mask target _ i

------------------------------------------------------------
-- Measurement
------------------------------------------------------------

/- A sum with one term that is not zero is that term. -/
theorem sumOver_single
    (n k : Nat)
    (test : Nat → Bool)
    (term : Nat → ℝ)
    (hZero : ∀ i, i ≠ k → term i = 0) :
    sumOver n test term =
      if k < n ∧ test k = true then term k else 0 := by
  induction n with
  | zero => rfl
  | succ n ih =>
      unfold sumOver at ih ⊢
      rw [Nat.fold_succ, ih]
      by_cases hLast : n = k
      · subst hLast
        cases test n with
        | false => simp
        | true => simp
      · have hLess : k < n + 1 ↔ k < n := by omega
        rw [hZero n hLast]
        simp only [hLess]
        cases test n with
        | false => rfl
        | true => exact add_zero _

/- The weight of a branch of a basis state is one or zero. -/
theorem BasisAt.branchWeight_eq
    {s : StateVector ℝ}
    {k : Nat}
    (hBasis : s.BasisAt k)
    (position : Nat)
    (outcome : Bool) :
    s.branchWeight position outcome =
      if k.testBit position = outcome then 1 else 0 := by
  have hZero :
      ∀ i, i ≠ k → (s.amplitude i).normSq = 0 := by
    intro i hOther
    rw [hBasis.zero_of_ne i hOther, Amplitude.normSq_zero]
  rw [branchWeight, Nat.one_shiftLeft,
    sumOver_single _ k _ _ hZero, hBasis.unit]
  simp [hBasis.index_lt]

/- Scaling by the norm of a certain outcome changes nothing. -/
theorem BasisAt.normalized_eq
    {s : StateVector ℝ}
    {k : Nat}
    (hBasis : s.BasisAt k)
    (position : Nat)
    (a : Amplitude ℝ) :
    normalized
        (Scalar.sqrt
          (s.branchWeight position (k.testBit position))) a =
      a := by
  have hNorm :
      Scalar.sqrt (s.branchWeight position (k.testBit position)) =
        (1 : ℝ) := by
    rw [hBasis.branchWeight_eq, if_pos rfl]
    exact Real.sqrt_one
  rw [hNorm, normalized]
  split
  · exact Amplitude.divScalar_one a
  · rfl

/- The certain outcome leaves a basis state as it is. -/
theorem BasisAt.collapse_eq
    {s : StateVector ℝ}
    {k : Nat}
    (hBasis : s.BasisAt k)
    (position : Nat) :
    s.collapse position (k.testBit position) = s := by
  apply ext_amplitude
  · exact qubitCount_collapse position _ s
  · intro i hIndex
    rw [qubitCount_collapse] at hIndex
    rw [amplitude_collapse _ _ _ hIndex, hBasis.normalized_eq]
    by_cases hOther : i = k
    · rw [hOther, if_pos rfl]
    · rw [hBasis.zero_of_ne i hOther, ite_self]

end StateVector

end QuantumRuntime

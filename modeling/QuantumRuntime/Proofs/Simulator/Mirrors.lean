import QuantumRuntime.Proofs.Simulator.BasisStates
import QuantumRuntime.Proofs.Simulator.BitEffects
import QuantumRuntime.Proofs.Simulator.Removal

/-
  This file relates the simulator of the full state, over the
  real numbers, to the simulator of bits. While the state is a
  basis state whose index holds the bit of each live qubit at
  its position, every draw decides for the bit, and classical
  operations on both keep them related.

  Key definitions include:
    * `Mirrors`

  Key theorems include:
    * `Mirrors.start`
    * `Mirrors.nextOutcome_eq`
    * `Mirrors.allocated`
    * `Mirrors.released`
    * `Mirrors.applied`
    * `Mirrors.holds_iff_controlsSet`
-/

namespace QuantumRuntime

------------------------------------------------------------
-- Mirrors
------------------------------------------------------------

/-
  The simulator of bits mirrors the full state at an index: the
  tables agree up to the values behind live qubits, the state is
  the basis state at the index, and the bit of each live qubit
  is the bit of the index at its position.
-/
structure Mirrors
    (full : FullState ℝ)
    (bits : Toffoli ℝ)
    (k : Nat) : Prop where
  dense :
    ∃ order, full.Dense order
  shape_eq :
    bits.qubits.shape = full.qubits.shape
  results_eq :
    bits.results = full.results
  tracked :
    bits.mode = .tracked
  basis :
    full.state.BasisAt k
  bit_eq :
    ∀ q position, full.qubits.get? q = some position →
      bits.qubits.get? q = some (k.testBit position)
  draws_mem :
    ∀ n, 0 ≤ full.draws n ∧ full.draws n < 1

namespace Mirrors

variable {full : FullState ℝ} {bits : Toffoli ℝ} {k : Nat}

/- Fresh simulators mirror each other. -/
theorem start
    (hFull : full.Untouched)
    (hBits : bits.Untouched)
    (hTracked : bits.mode = .tracked)
    (hReuse : full.qubits.free = bits.qubits.free)
    (hDraws : ∀ n, 0 ≤ full.draws n ∧ full.draws n < 1) :
    Mirrors full bits 0 := by
  rcases hFull.qubits_eq with ⟨recycle, hFullQubits⟩
  rcases hBits.qubits_eq with ⟨recycle', hBitsQubits⟩
  have hSame : recycle = recycle' := by
    rw [hFullQubits, hBitsQubits] at hReuse
    cases recycle <;> cases recycle' <;>
      first | rfl | cases hReuse
  refine
    { dense := ⟨[], hFull.dense⟩
      shape_eq := ?_
      results_eq := hBits.results_eq.trans hFull.results_eq.symm
      tracked := hTracked
      basis := ?_
      bit_eq := ?_
      draws_mem := hDraws }
  · rw [hFullQubits, hBitsQubits, hSame, HandleTable.shape_make,
      HandleTable.shape_make]
  · rw [hFull.state_eq]
    exact StateVector.basisAt_ground_zero
  · intro q position hLive
    rw [hFull.dense.position_iff] at hLive
    cases hLive

/- A qubit that is dead in the one is dead in the other. -/
theorem get?_eq_none
    (hMirrors : Mirrors full bits k)
    {q : QubitId}
    (hDead : full.qubits.get? q = none) :
    bits.qubits.get? q = none := by
  have hSome :=
    HandleTable.isSome_get?_of_shape_eq hMirrors.shape_eq q
  rw [hDead] at hSome
  simpa using hSome

/- Live qubits have positions within the state. -/
theorem position_lt
    (hMirrors : Mirrors full bits k)
    {q : QubitId}
    {position : Nat}
    (hLive : full.qubits.get? q = some position) :
    position < full.state.qubitCount := by
  rcases hMirrors.dense with ⟨order, hDense⟩
  exact hDense.position_lt hLive

/- Qubits at one position are equal. -/
theorem eq_of_position
    (hMirrors : Mirrors full bits k)
    {q r : QubitId}
    {position : Nat}
    (hFirst : full.qubits.get? q = some position)
    (hSecond : full.qubits.get? r = some position) :
    q = r := by
  rcases hMirrors.dense with ⟨order, hDense⟩
  exact hDense.eq_of_position hFirst hSecond

/- Both refuse a handle that is not live in the same words. -/
theorem violation_eq
    (hMirrors : Mirrors full bits k)
    (q : QubitId)
    (operation : String) :
    bits.qubits.violation q operation =
      full.qubits.violation q operation :=
  HandleTable.violation_eq_of_shape_eq hMirrors.shape_eq q operation

/- Both read the same outcome from a result. -/
theorem value_eq
    (hMirrors : Mirrors full bits k)
    (operation : String)
    (r : ResultId) :
    bits.value operation r = full.value operation r := by
  cases hConstant : r.constantValue with
  | some bit =>
      simp only [Toffoli.value, FullState.value, hConstant]
  | none =>
      simp only [Toffoli.value, FullState.value, hConstant,
        hMirrors.results_eq]

/- Every draw decides for the bit of the index. -/
theorem nextOutcome_eq
    (hMirrors : Mirrors full bits k)
    (position : Nat) :
    full.nextOutcome position = k.testBit position := by
  rcases hMirrors.draws_mem full.drawn with ⟨hLow, hHigh⟩
  have hWeight :=
    hMirrors.basis.branchWeight_eq position true
  unfold FullState.nextOutcome StateVector.probabilityOne
  rw [hWeight]
  cases k.testBit position with
  | false =>
      rw [if_neg Bool.false_ne_true]
      exact decide_eq_false (not_lt.mpr hLow)
  | true =>
      rw [if_pos rfl]
      exact decide_eq_true hHigh

------------------------------------------------------------
-- Allocating and releasing
------------------------------------------------------------

/- Both issue the same qubit, which is zero. -/
theorem allocated
    (hMirrors : Mirrors full bits k)
    (hRoom : full.qubits.liveCount < full.maxQubits) :
    (bits.qubits.insert false).1 = full.nextQubit ∧
      Mirrors full.allocated
        { bits with
          qubits :=
            (bits.qubits.insert false :
              QubitId × HandleTable QubitId Bool).2 } k := by
  rcases hMirrors.dense with ⟨order, hDense⟩
  have hCoherent : bits.qubits.Coherent :=
    HandleTable.coherent_of_shape_eq hMirrors.shape_eq
      hDense.coherent
  have hKey :
      ((bits.qubits.insert false).1 : QubitId) =
        full.nextQubit := by
    have hFull := HandleTable.insert_fst_shape (K := QubitId)
      full.qubits full.state.qubitCount
    have hBits := HandleTable.insert_fst_shape (K := QubitId)
      bits.qubits false
    rw [hMirrors.shape_eq] at hBits
    exact hBits.symm.trans hFull
  refine ⟨hKey, ?_⟩
  refine
    { dense := ⟨_, hDense.allocated hRoom⟩
      shape_eq := ?_
      results_eq := hMirrors.results_eq
      tracked := hMirrors.tracked
      basis := hMirrors.basis.addQubit
      bit_eq := ?_
      draws_mem := hMirrors.draws_mem }
  · have hFull :=
      HandleTable.shape_insert (K := QubitId) full.qubits
        full.state.qubitCount
    have hBits :=
      HandleTable.shape_insert (K := QubitId) bits.qubits false
    rw [hMirrors.shape_eq] at hBits
    exact hBits.trans hFull.symm
  · intro q position hLive
    have hFull := hDense.coherent.get?_insert
      full.state.qubitCount q
    have hBits := hCoherent.get?_insert false q
    rw [show full.allocated.qubits.get? q = _ from hFull,
      show (full.qubits.insert full.state.qubitCount).1 =
        full.nextQubit from rfl] at hLive
    rw [hKey] at hBits
    refine hBits.trans ?_
    by_cases hNew : q = full.nextQubit
    · rw [if_pos hNew] at hLive
      cases hLive
      rw [if_pos hNew,
        Nat.testBit_lt_two_pow hMirrors.basis.index_lt]
    · rw [if_neg hNew] at hLive
      rw [if_neg hNew]
      exact hMirrors.bit_eq q position hLive

/- A release deletes the bit of the qubit from the index. -/
theorem released
    (hMirrors : Mirrors full bits k)
    {q : QubitId}
    {position : Nat}
    (hLive : full.qubits.get? q = some position) :
    Mirrors (full.released q position)
      { bits with qubits := bits.qubits.without q }
      (deleteBit position k) := by
  rcases hMirrors.dense with ⟨order, hDense⟩
  have hPosition := hMirrors.position_lt hLive
  have hOutcome := hMirrors.nextOutcome_eq position
  have hBitLive := hMirrors.bit_eq q position hLive
  have hCount :
      (full.released q position).state.qubitCount =
        full.state.qubitCount - 1 :=
    FullState.qubitCount_compacted position full
  refine
    { dense := ⟨_, hDense.released hLive⟩
      shape_eq := ?_
      results_eq := hMirrors.results_eq
      tracked := hMirrors.tracked
      basis := ?_
      bit_eq := ?_
      draws_mem := hMirrors.draws_mem }
  · have hFull :
        (full.released q position).qubits.shape =
          (full.qubits.without q).shape :=
      HandleTable.shape_updateLive _ _
    have hBits :
        (bits.qubits.without q).shape =
          (full.qubits.without q).shape := by
      rw [HandleTable.shape_without, HandleTable.shape_without,
        hMirrors.shape_eq]
    exact hBits.trans hFull.symm
  · refine hMirrors.basis.of_source ?_
      (insertBit position (k.testBit position)) ?_ ?_
    · rw [hCount]
      exact deleteBit_lt hPosition hMirrors.basis.index_lt
    · intro i hIndex
      rw [hCount] at hIndex
      refine ⟨1, Amplitude.normSq_one, ?_⟩
      rw [Amplitude.one_mul]
      exact (FullState.amplitude_compacted hOutcome hPosition
        hIndex).trans (hMirrors.basis.normalized_eq position _)
    · intro i _
      constructor
      · intro hEq
        rw [← hEq, deleteBit_insertBit]
      · rintro rfl
        exact insertBit_deleteBit position k
  · intro r new hNew
    rw [FullState.get?_qubits_released hLive] at hNew
    by_cases hKey : r = q
    · rw [if_pos hKey] at hNew
      cases hNew
    · rw [if_neg hKey] at hNew
      rcases Option.map_eq_some_iff.mp hNew with ⟨old, hOld, rfl⟩
      have hOther : old ≠ position := by
        rintro rfl
        exact hKey (hMirrors.eq_of_position hOld hLive)
      have hBit :=
        FullState.testBit_insertBit_of_ne hOther
          (k.testBit position) (deleteBit position k)
      rw [insertBit_deleteBit] at hBit
      rw [← hBit, ← hMirrors.bit_eq r old hOld]
      exact (HandleTable.get?_without
        (HandleTable.issued_of_get?_eq_some _ hBitLive) r).trans
          (if_neg hKey)

------------------------------------------------------------
-- Gates
------------------------------------------------------------

/-
  A gate that both apply keeps the mirror. The simulator of bits
  turns the target where the index holds the mask.
-/
theorem applied
    (hMirrors : Mirrors full bits k)
    {g : Gate ℝ}
    (hClassical : g.IsBitFlip ∨ g.IsDiagonal)
    {target : QubitId}
    {position : Nat}
    (hLive : full.qubits.get? target = some position)
    {mask : Nat}
    (hOutside : mask.testBit position = false) :
    Mirrors (full.applied g mask position)
      (if Holds mask k then
        bits.turned g target (k.testBit position)
      else
        bits)
      (if g.IsBitFlip then flipUnder mask position k else k) := by
  rcases hMirrors.dense with ⟨order, hDense⟩
  have hBitLive := hMirrors.bit_eq target position hLive
  have hPosition := hMirrors.position_lt hLive
  have hBasis :=
    hMirrors.basis.applyGate hClassical hPosition hOutside
  have hKept :
      ∃ order, (full.applied g mask position).Dense order :=
    ⟨order, hDense.of_same rfl
      (by simp [FullState.applied]) rfl⟩
  by_cases hTurned : g.IsBitFlip ∧ Holds mask k
  · rcases hTurned with ⟨hFlip, hHolds⟩
    rw [if_pos hHolds, if_pos hFlip, Toffoli.turned,
      if_pos hFlip]
    rw [if_pos hFlip] at hBasis
    refine
      { dense := hKept
        shape_eq := ?_
        results_eq := hMirrors.results_eq
        tracked := hMirrors.tracked
        basis := hBasis
        bit_eq := ?_
        draws_mem := hMirrors.draws_mem }
    · exact (HandleTable.shape_overwrite hBitLive _).trans
        hMirrors.shape_eq
    · intro q old hOld
      have hWritten :=
        HandleTable.get?_overwrite
          (HandleTable.issued_of_get?_eq_some _ hBitLive)
          (!k.testBit position) q
      refine hWritten.trans ?_
      rw [testBit_flipUnder]
      by_cases hKey : q = target
      · subst hKey
        have hSame : position = old :=
          Option.some.inj (hLive.symm.trans hOld)
        subst hSame
        rw [if_pos rfl, if_pos ⟨rfl, hHolds⟩]
      · have hOther : old ≠ position := by
          rintro rfl
          exact hKey (hMirrors.eq_of_position hOld hLive)
        rw [if_neg hKey, if_neg (fun hBoth => hOther hBoth.1)]
        exact hMirrors.bit_eq q old hOld
  · have hBits :
        (if Holds mask k then
          bits.turned g target (k.testBit position)
        else
          bits) = bits := by
      by_cases hHolds : Holds mask k
      · rw [if_pos hHolds, Toffoli.turned,
          if_neg (fun hFlip => hTurned ⟨hFlip, hHolds⟩)]
      · rw [if_neg hHolds]
    have hIndex :
        (if g.IsBitFlip then flipUnder mask position k else k) =
          k := by
      by_cases hFlip : g.IsBitFlip
      · rw [if_pos hFlip, flipUnder,
          if_neg (fun hHolds => hTurned ⟨hFlip, hHolds⟩)]
      · rw [if_neg hFlip]
    rw [hIndex] at hBasis
    rw [hBits, hIndex]
    exact
      { dense := hKept
        shape_eq := hMirrors.shape_eq
        results_eq := hMirrors.results_eq
        tracked := hMirrors.tracked
        basis := hBasis
        bit_eq := hMirrors.bit_eq
        draws_mem := hMirrors.draws_mem }

/- The mask is held exactly when all control bits are one. -/
theorem holds_iff_controlsSet
    (hMirrors : Mirrors full bits k)
    {controls : List QubitId}
    {mask : Nat}
    (hMask :
      FullState.controlMask full.qubits controls = .ok mask) :
    Holds mask k ↔ Toffoli.ControlsSet bits.qubits controls := by
  rw [holds_iff]
  constructor
  · intro hHolds c hMem
    have hAll := FullState.map_controlMask full.qubits controls
    rw [hMask] at hAll
    rcases HandleTable.live_of_checkLive hAll.symm c hMem with
      ⟨position, hLive⟩
    have hSet := hHolds position
      ((FullState.testBit_controlMask hMask position).mpr
        ⟨c, hMem, hLive⟩)
    rw [hMirrors.bit_eq c position hLive, hSet]
  · intro hSet position hBit
    rcases
        (FullState.testBit_controlMask hMask position).mp hBit with
      ⟨c, hMem, hLive⟩
    have hOne := hSet c hMem
    rw [hMirrors.bit_eq c position hLive] at hOne
    exact Option.some.inj hOne

/- The target of a controlled gate is not in its mask. -/
theorem testBit_mask_target
    (hMirrors : Mirrors full bits k)
    {controls : List QubitId}
    {target : QubitId}
    {mask position : Nat}
    (hMask :
      FullState.controlMask full.qubits controls = .ok mask)
    (hDistinct : checkDistinct controls target = .ok ())
    (hLive : full.qubits.get? target = some position) :
    mask.testBit position = false := by
  by_contra hSet
  rw [Bool.not_eq_false,
    FullState.testBit_controlMask hMask] at hSet
  rcases hSet with ⟨c, hMem, hControl⟩
  rcases hMirrors.eq_of_position hControl hLive with rfl
  exact not_mem_of_checkDistinct hDistinct hMem

------------------------------------------------------------
-- Measurements
------------------------------------------------------------

/- Draws that were spent and results do not break a mirror. -/
theorem of_same
    (hMirrors : Mirrors full bits k)
    {full' : FullState ℝ}
    {bits' : Toffoli ℝ}
    (hState : full'.state = full.state)
    (hQubits : full'.qubits = full.qubits)
    (hSettings : full.SameSettings full')
    (hBits : bits'.qubits = bits.qubits)
    (hMode : bits'.mode = bits.mode)
    (hResults : bits'.results = full'.results) :
    Mirrors full' bits' k := by
  rcases hMirrors.dense with ⟨order, hDense⟩
  exact
    { dense := ⟨order, hDense.of_same hQubits (by rw [hState])
        hSettings.maxQubits_eq⟩
      shape_eq := by rw [hBits, hQubits, hMirrors.shape_eq]
      results_eq := hResults
      tracked := hMode.trans hMirrors.tracked
      basis := by rw [hState]; exact hMirrors.basis
      bit_eq := by rw [hQubits, hBits]; exact hMirrors.bit_eq
      draws_mem := by
        rw [hSettings.draws_eq]
        exact hMirrors.draws_mem }

/- A measurement spends a draw and changes nothing else. -/
theorem collapsed
    (hMirrors : Mirrors full bits k)
    (position : Nat) :
    Mirrors (full.collapsed position) bits k := by
  refine hMirrors.of_same ?_ rfl ⟨rfl, rfl, rfl, rfl⟩ rfl rfl
    hMirrors.results_eq
  rw [FullState.collapsed, hMirrors.nextOutcome_eq]
  exact hMirrors.basis.collapse_eq position

/- Results that are changed alike stay alike. -/
theorem withResults
    (hMirrors : Mirrors full bits k)
    (results : HandleTable ResultId Bool) :
    Mirrors { full with results := results }
      { bits with results := results } k :=
  hMirrors.of_same rfl rfl ⟨rfl, rfl, rfl, rfl⟩ rfl rfl rfl

/- Both record an outcome under the same result. -/
theorem handOut_eq
    (hMirrors : Mirrors full bits k)
    (outcome : Bool) :
    bits.handOut outcome =
      ((full.results.insert outcome).1,
        { bits with
          results :=
            (full.results.insert outcome :
              ResultId × HandleTable ResultId Bool).2 }) := by
  unfold Toffoli.handOut
  rw [hMirrors.tracked, hMirrors.results_eq]

end Mirrors

end QuantumRuntime

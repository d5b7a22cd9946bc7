import QuantumRuntime.Proofs.AmplitudeLaws
import QuantumRuntime.Proofs.Simulator.BasisStates
import QuantumRuntime.Proofs.Simulator.GateCalls
import QuantumRuntime.Proofs.Simulator.GatePairs

/-
  This file proves that a controlled gate acts if and only if
  every control is active. On the simulator of bits the target
  is flipped once and nothing else is written. On the full state
  a control in a definite basis state either lets all amplitudes
  that are not zero hold its part of the mask, or none of them.
  Of the arithmetic it is only used that zero amplitudes stay
  zero when they are multiplied and added.

  Key definitions include:
    * `StateVector.Settled`
    * `FullState.HasBit`

  Key theorems include:
    * `StateVector.applyGate_of_settled_one`
    * `StateVector.applyGate_of_settled_zero`
    * `FullState.perform_of_controls_one`
    * `FullState.perform_of_control_zero`
    * `controlled_gate_acts_when_controls_active`
-/

namespace QuantumRuntime

------------------------------------------------------------
-- State vectors
------------------------------------------------------------

namespace StateVector

variable {R : Type} [Scalar R]

/- A gate keeps a pair of zeros. -/
theorem gateAction_zero
    (hZero : Amplitude.ZeroLaws R)
    (g : Gate R) :
    gateAction g 0 0 = (0, 0) := by
  have hAct (m : GateMatrix R) : m.act 0 0 = (0, 0) := by
    simp only [GateMatrix.act, hZero.mul_zero, hZero.add_zero]
  cases g with
  | i | x => rfl
  | _ => exact hAct _

/- All amplitudes with the opposite bit at a position are zero. -/
def Settled
    (position : Nat)
    (bit : Bool)
    (s : StateVector R) : Prop :=
  ∀ i < 2 ^ s.qubitCount,
    i.testBit position ≠ bit → s.amplitude i = 0

variable {s : StateVector R} {mask target position : Nat}

/-
  A gate at another target changes no amplitude with the opposite
  bit: both amplitudes of its pair are zero.
-/
theorem Settled.side_gateAction
    {bit : Bool}
    {i : Nat}
    (hSettled : s.Settled position bit)
    (hZero : Amplitude.ZeroLaws R)
    (g : Gate R)
    (hOther : position ≠ target)
    (hTarget : target < s.qubitCount)
    (hIndex : i < 2 ^ s.qubitCount)
    (hBit : i.testBit position ≠ bit) :
    side (i.testBit target)
        (gateAction g (pairAt target s.amplitude i).1
          (pairAt target s.amplitude i).2) =
      s.amplitude i := by
  have hPair (b : Bool) :
      s.amplitude (putBit target b i) = 0 := by
    apply hSettled _ (putBit_lt hTarget b hIndex)
    rw [testBit_putBit, if_neg hOther]
    exact hBit
  rw [pairAt, hPair, hPair, gateAction_zero hZero,
    hSettled i hIndex hBit]
  cases i.testBit target <;> rfl

/-
  Where every control is one, a gate acts as if it had none: a
  pair that does not hold the mask consists of zeros.
-/
theorem applyGate_of_settled_one
    (hZero : Amplitude.ZeroLaws R)
    (g : Gate R)
    (hTarget : target < s.qubitCount)
    (hControls : ∀ k, mask.testBit k = true →
      k ≠ target ∧ s.Settled k true) :
    s.applyGate g mask target = s.applyGate g 0 target := by
  apply ext_amplitude
  · simp
  · intro i hIndex
    rw [qubitCount_applyGate] at hIndex
    have hFree : Holds 0 (putBit target false i) := by
      simp [Holds]
    rw [amplitude_applyGate_eq g mask s hTarget hIndex,
      amplitude_applyGate_eq g 0 s hTarget hIndex,
      pairImage_eq, pairImage_eq, if_pos hFree]
    by_cases hHolds : Holds mask (putBit target false i)
    · rw [if_pos hHolds]
    · rw [if_neg hHolds]
      rw [holds_iff] at hHolds
      push Not at hHolds
      rcases hHolds with ⟨k, hMask, hBit⟩
      rcases hControls k hMask with ⟨hOther, hSettled⟩
      rw [testBit_putBit, if_neg hOther] at hBit
      exact (hSettled.side_gateAction hZero g hOther hTarget
        hIndex hBit).symm

/-
  Where a control is zero, a gate does nothing: a pair that holds
  the mask consists of zeros.
-/
theorem applyGate_of_settled_zero
    (hZero : Amplitude.ZeroLaws R)
    (g : Gate R)
    (hTarget : target < s.qubitCount)
    (hMask : mask.testBit position = true)
    (hOther : position ≠ target)
    (hSettled : s.Settled position false) :
    s.applyGate g mask target = s := by
  apply ext_amplitude
  · simp
  · intro i hIndex
    rw [qubitCount_applyGate] at hIndex
    rw [amplitude_applyGate_eq g mask s hTarget hIndex,
      pairImage_eq]
    by_cases hHolds : Holds mask (putBit target false i)
    · have hBit := (holds_iff _ _).mp hHolds position hMask
      rw [testBit_putBit, if_neg hOther] at hBit
      have hOne : i.testBit position ≠ false := by
        rw [hBit]
        exact Bool.noConfusion
      rw [if_pos hHolds]
      exact hSettled.side_gateAction hZero g hOther hTarget
        hIndex hOne
    · rw [if_neg hHolds]

end StateVector

------------------------------------------------------------
-- The simulator of the full state
------------------------------------------------------------

namespace FullState

variable {R : Type} [Scalar R]

/-
  A qubit is in a definite basis state: all amplitudes with the
  opposite bit at its position are zero.
-/
def HasBit
    (q : QubitId)
    (bit : Bool)
    (sim : FullState R) : Prop :=
  ∃ position, sim.qubits.get? q = some position ∧
    sim.state.Settled position bit

variable {sim : FullState R} {order : List QubitId}
variable {g : Gate R} {controls : List QubitId} {target : QubitId}
variable {mask position : Nat}

omit [Scalar R] in
/- The position of a control is not that of the target. -/
theorem Takes.position_ne
    (hDense : sim.Dense order)
    (hTakes :
      sim.Takes (.controlled g controls target) mask position)
    {c : QubitId}
    (hControl : c ∈ controls)
    {other : Nat}
    (hLive : sim.qubits.get? c = some other) :
    other ≠ position := by
  rintro rfl
  have hSame := hDense.eq_of_position hLive hTakes.target_live
  rw [hSame] at hControl
  exact not_mem_of_checkDistinct hTakes.distinct hControl

/- With all controls one, the gate acts as without controls. -/
theorem perform_of_controls_one
    (hZero : Amplitude.ZeroLaws R)
    (hDense : sim.Dense order)
    (hTakes :
      sim.Takes (.controlled g controls target) mask position)
    (hOnes : ∀ c ∈ controls, sim.HasBit c true) :
    ((Request.applyControlled g controls target).run.perform
        sim).2 =
      ((Request.apply g target).run.perform sim).2 := by
  have hPlain : sim.Takes (.plain g target) 0 position :=
    ⟨hTakes.target_live, rfl, rfl⟩
  have hControls :
      ∀ k, mask.testBit k = true →
        k ≠ position ∧ sim.state.Settled k true := by
    intro k hMask
    rcases (testBit_controlMask hTakes.mask_eq k).mp hMask with
      ⟨c, hControl, hLive⟩
    refine ⟨hTakes.position_ne hDense hControl hLive, ?_⟩
    rcases hOnes c hControl with ⟨k', hLive', hSettled⟩
    cases Option.some.inj (hLive.symm.trans hLive')
    exact hSettled
  calc
    ((Request.applyControlled g controls target).run.perform
        sim).2 = sim.applied g mask position :=
      congrArg Prod.snd hTakes.perform_run
    _ = sim.applied g 0 position := by
      unfold applied
      rw [StateVector.applyGate_of_settled_one hZero g
        (hDense.position_lt hTakes.target_live) hControls]
    _ = ((Request.apply g target).run.perform sim).2 :=
      (congrArg Prod.snd hPlain.perform_run).symm

/- With a control that is zero, the gate does nothing. -/
theorem perform_of_control_zero
    (hZero : Amplitude.ZeroLaws R)
    (hDense : sim.Dense order)
    (hTakes :
      sim.Takes (.controlled g controls target) mask position)
    {c : QubitId}
    (hControl : c ∈ controls)
    (hOff : sim.HasBit c false) :
    ((Request.applyControlled g controls target).run.perform
        sim).2 =
      sim := by
  rcases hOff with ⟨other, hLive, hSettled⟩
  have hMask : mask.testBit other = true :=
    (testBit_controlMask hTakes.mask_eq other).mpr
      ⟨c, hControl, hLive⟩
  calc
    ((Request.applyControlled g controls target).run.perform
        sim).2 = sim.applied g mask position :=
      congrArg Prod.snd hTakes.perform_run
    _ = sim := by
      unfold applied
      rw [StateVector.applyGate_of_settled_zero hZero g
        (hDense.position_lt hTakes.target_live) hMask
        (hTakes.position_ne hDense hControl hLive) hSettled]

/- Without controls, the state after is that of the plain gate. -/
theorem perform_without_controls
    (g : Gate R)
    (target : QubitId)
    (sim : FullState R) :
    ((Request.applyControlled g [] target).run.perform sim).2 =
      ((Request.apply g target).run.perform sim).2 := by
  rw [Request.run_applyControlled
      (perform_applyControlled g [] target sim),
    Request.run_apply (perform_apply g target sim)]
  cases hTarget : sim.qubits.get? target with
  | none =>
      rw [HandleTable.get_of_dead hTarget,
        HandleTable.get_of_dead hTarget]
  | some position =>
      rw [HandleTable.get_of_live hTarget,
        HandleTable.get_of_live hTarget]
      rfl

end FullState

------------------------------------------------------------
-- The simulator of bits
------------------------------------------------------------

namespace Toffoli

variable {R : Type} [Scalar R]
variable {sim : Toffoli R} {call : GateCall R} {bit : Bool}

omit [Scalar R] in
/- A call that flips turns the bit of its target, and no other. -/
theorem get?_gated_eq_map
    (hTakes : sim.Takes call bit)
    (q : QubitId) :
    (sim.gated call bit).qubits.get? q =
      if q = call.target ∧ sim.Flips call then
        (sim.qubits.get? q).map not
      else
        sim.qubits.get? q := by
  rw [get?_gated hTakes]
  by_cases hActs : q = call.target ∧ sim.Flips call
  · rw [if_pos hActs, if_pos hActs, hActs.1, hTakes.target_live]
    rfl
  · rw [if_neg hActs, if_neg hActs]

omit [Scalar R] in
/- A call writes nothing but bits. -/
theorem gated_with_qubits
    (call : GateCall R)
    (bit : Bool)
    (sim : Toffoli R) :
    { sim.gated call bit with qubits := sim.qubits } = sim := by
  unfold gated
  split <;> rfl

/- Without controls, the state after is that of the plain gate. -/
theorem perform_without_controls
    (g : Gate R)
    (target : QubitId)
    (sim : Toffoli R) :
    ((Request.applyControlled g [] target).run.perform sim).2 =
      ((Request.apply g target).run.perform sim).2 := by
  rw [Request.run_applyControlled
    (perform_applyControlled g [] target sim)]
  cases hTarget : sim.qubits.get? target with
  | none =>
      rw [HandleTable.get_of_dead hTarget,
        Request.run_apply (perform_apply_of_dead hTarget g)]
  | some bit =>
      rw [HandleTable.get_of_live hTarget,
        Request.run_apply (perform_apply_of_live hTarget g)]
      unfold checkGate
      by_cases hSupported : g.IsBitFlip ∨ g.IsDiagonal
      · have hSet : ControlsSet sim.qubits [] := nofun
        rw [if_pos hSupported, if_pos hSupported]
        show (if ControlsSet sim.qubits [] then
            sim.turned g target bit
          else
            sim) =
          sim.turned g target bit
        rw [if_pos hSet]
      · rw [if_neg hSupported, if_neg hSupported]
        rfl

end Toffoli

------------------------------------------------------------
-- Controlled gates
------------------------------------------------------------

/-
  A controlled gate that is accepted acts when every control is
  active, and only then. On bits the target is flipped when the
  gate is a bit flip and all controls are one, no other bit
  changes and the tables keep their shape. On the full state the
  gate acts as without controls when all controls are settled at
  one, and not at all when one of them is settled at zero. With
  an empty list of controls it leaves what the plain gate leaves
  in every state, accepted or not.
-/
theorem controlled_gate_acts_when_controls_active
    {R : Type}
    [Scalar R] :
    (∀ (sim : Toffoli R) (g : Gate R) (controls : List QubitId)
        (target : QubitId),
      let request := Request.applyControlled g controls target
      let after := (request.run.perform sim).2
      (request.run.perform sim).1 = .ok .done →
      (∀ q, after.qubits.get? q =
        if q = target ∧ g.IsBitFlip ∧
            ∀ c ∈ controls, sim.qubits.get? c = some true then
          (sim.qubits.get? q).map not
        else
          sim.qubits.get? q) ∧
        after.qubits.shape = sim.qubits.shape ∧
        { after with qubits := sim.qubits } = sim) ∧
      (∀ (sim : FullState R) (g : Gate R)
          (controls : List QubitId) (target : QubitId),
        let request := Request.applyControlled g controls target
        let after := (request.run.perform sim).2
        (Builtin.fullState sim).Reachable →
        Amplitude.ZeroLaws R →
        (request.run.perform sim).1 = .ok .done →
        ((∀ c ∈ controls, sim.HasBit c true) →
            after = ((Request.apply g target).run.perform sim).2) ∧
          ((∃ c ∈ controls, sim.HasBit c false) →
            after = sim)) ∧
      (∀ (sim : Toffoli R) (g : Gate R) (target : QubitId),
        ((Request.applyControlled g [] target).run.perform
            sim).2 =
          ((Request.apply g target).run.perform sim).2) ∧
      ∀ (sim : FullState R) (g : Gate R) (target : QubitId),
        ((Request.applyControlled g [] target).run.perform
            sim).2 =
          ((Request.apply g target).run.perform sim).2 := by
  refine ⟨?_, ?_, ?_, ?_⟩
  · intro sim g controls target request after hAccepted
    have hExists :
        ∃ bit, sim.Takes (.controlled g controls target) bit :=
      Toffoli.exists_takes hAccepted
    rcases hExists with ⟨bit, hTakes⟩
    have hAfter :
        after = sim.gated (.controlled g controls target) bit :=
      congrArg Prod.snd hTakes.perform_run
    rw [hAfter]
    refine ⟨?_, Toffoli.shape_gated hTakes,
      Toffoli.gated_with_qubits _ bit sim⟩
    intro q
    exact (Toffoli.get?_gated_eq_map hTakes q).trans
      (if_congr Iff.rfl rfl rfl)
  · intro sim g controls target request after hReachable hZero
      hAccepted
    rcases hReachable.dense rfl with ⟨order, hDense⟩
    have hExists :
        ∃ mask position,
          sim.Takes (.controlled g controls target) mask
            position :=
      FullState.exists_takes hAccepted
    rcases hExists with ⟨mask, position, hTakes⟩
    refine
      ⟨FullState.perform_of_controls_one hZero hDense hTakes, ?_⟩
    rintro ⟨c, hControl, hOff⟩
    exact FullState.perform_of_control_zero hZero hDense hTakes
      hControl hOff
  · intro sim g target
    exact Toffoli.perform_without_controls g target sim
  · intro sim g target
    exact FullState.perform_without_controls g target sim

/-
  Of two controls in definite states one is one and the other
  zero. A gate that the first controls acts, one that both
  control does not, on bits and on real amplitudes.
-/
theorem first_control_is_active :
    let requests : List (Request ℝ) :=
      [.allocateQubit, .allocateQubit, .allocateQubit,
        .apply .x ⟨0⟩]
    let bits : Toffoli ℝ :=
      (runRequests (.start .tracked) requests).2
    let full : FullState ℝ :=
      (runRequests (.start fun _ => 0) requests).2
    let one : Request ℝ := .applyControlled .y [⟨0⟩] ⟨2⟩
    let both : Request ℝ := .applyControlled .h [⟨0⟩, ⟨1⟩] ⟨2⟩
    (Builtin.fullState full).Reachable ∧
      (one.run.perform bits).2.qubits.get? ⟨2⟩ = some true ∧
      full.HasBit ⟨0⟩ true ∧
      full.HasBit ⟨1⟩ false ∧
      (one.run.perform full).2 =
        ((Request.apply .y ⟨2⟩).run.perform full).2 ∧
      (both.run.perform full).2 = full := by
  intro requests bits full one both
  have hReachable : (Builtin.fullState full).Reachable := by
    have hRun := Builtin.fullState_morphism.runRequests_eq
      requests (FullState.start fun _ => 0)
    have hEnd :=
      (Builtin.Reachable.fullState _
        (.start fun _ => (0 : ℝ))).run requests
    rwa [hRun] at hEnd
  have hBasis : full.state.BasisAt 1 := by
    let flip : Gate ℝ := .x
    have hFlip : flip.IsBitFlip ∨ flip.IsDiagonal :=
      .inl trivial
    have hOutside : Nat.testBit 0 0 = false := rfl
    exact
      StateVector.basisAt_ground_zero.addQubit.addQubit.addQubit
        |>.applyGate hFlip (by decide) hOutside
  have hZero := Amplitude.ringLaws_real.zeroLaws
  have hFirst : full.HasBit ⟨0⟩ true := by
    refine ⟨0, rfl, fun i _ hBit => hBasis.zero_of_ne i ?_⟩
    rintro rfl
    exact hBit rfl
  have hSecond : full.HasBit ⟨1⟩ false := by
    refine ⟨1, rfl, fun i _ hBit => hBasis.zero_of_ne i ?_⟩
    rintro rfl
    exact hBit rfl
  rcases controlled_gate_acts_when_controls_active (R := ℝ) with
    ⟨hBits, hFull, -, -⟩
  have hTurned := (hBits bits .y [⟨0⟩] ⟨2⟩ rfl).1 ⟨2⟩
  refine ⟨hReachable, hTurned.trans rfl, hFirst, hSecond, ?_, ?_⟩
  · apply (hFull full .y [⟨0⟩] ⟨2⟩ hReachable hZero rfl).1
    simpa using hFirst
  · apply (hFull full .h [⟨0⟩, ⟨1⟩] ⟨2⟩ hReachable hZero rfl).2
    exact ⟨⟨1⟩, by simp, hSecond⟩

end QuantumRuntime

import QuantumRuntime.Proofs.Simulator.Controls
import QuantumRuntime.Proofs.Simulator.GateCalls
import QuantumRuntime.Proofs.Simulator.UnitaryGates

/-
  This file proves that a circuit is undone by its adjoint: the
  adjoint gates on the same qubits, the last one first. On the
  simulator of bits this holds of every state in which the
  circuit is accepted. On a state vector it holds of every list
  of gates and masks when the arithmetic is exact.

  Key definitions include:
    * `GateCall.undo`
    * `GateCall.undoing`
    * `StateVector.MaskedGate`
    * `StateVector.applyAll`

  Key theorems include:
    * `Toffoli.gated_undo`
    * `Toffoli.run_undoing`
    * `StateVector.applyGate_adjoint`
    * `StateVector.applyAll_undoing`
    * `adjoint_circuit_restores_state`
-/

namespace QuantumRuntime

------------------------------------------------------------
-- Adjoint gates
------------------------------------------------------------

namespace Gate

variable {R : Type} [Neg R]

@[simp] theorem isBitFlip_adjoint
    (g : Gate R) :
    g.adjoint.IsBitFlip ↔ g.IsBitFlip := by
  cases g <;> rfl

@[simp] theorem isDiagonal_adjoint
    (g : Gate R) :
    g.adjoint.IsDiagonal ↔ g.IsDiagonal := by
  cases g <;> rfl

end Gate

------------------------------------------------------------
-- Undoing calls
------------------------------------------------------------

namespace GateCall

variable {R : Type} [Neg R]

/- The call that undoes a call: the adjoint gate, same qubits. -/
def undo : GateCall R → GateCall R
  | plain g target => .plain g.adjoint target
  | controlled g controls target =>
      .controlled g.adjoint controls target

@[simp] theorem gate_undo
    (call : GateCall R) :
    call.undo.gate = call.gate.adjoint := by
  cases call <;> rfl

@[simp] theorem controls_undo
    (call : GateCall R) :
    call.undo.controls = call.controls := by
  cases call <;> rfl

@[simp] theorem target_undo
    (call : GateCall R) :
    call.undo.target = call.target := by
  cases call <;> rfl

/- The circuit that undoes a circuit, the last call first. -/
def undoing
    (circuit : List (GateCall R)) : List (GateCall R) :=
  (circuit.map undo).reverse

end GateCall

/- Every request of a run is answered without an error. -/
def AllDone
    (replies : List (Except BackendError Reply)) : Prop :=
  ∀ reply ∈ replies, reply = .ok .done

instance
    (replies : List (Except BackendError Reply)) :
    Decidable (AllDone replies) := by
  unfold AllDone
  infer_instance

theorem allDone_cons_iff
    {reply : Except BackendError Reply}
    {rest : List (Except BackendError Reply)} :
    AllDone (reply :: rest) ↔ reply = .ok .done ∧ AllDone rest :=
  List.forall_mem_cons

------------------------------------------------------------
-- The simulator of bits
------------------------------------------------------------

namespace Toffoli

variable {R : Type} [Scalar R]
variable {sim : Toffoli R} {call : GateCall R} {bit : Bool}

/-
  The undoing call flips when the call does: the call has written
  the target alone, which is none of the controls.
-/
theorem flips_undo_iff
    (hTakes : sim.Takes call bit) :
    (sim.gated call bit).Flips call.undo ↔ sim.Flips call := by
  have hOutside : call.target ∉ call.undo.controls := by
    rw [GateCall.controls_undo]
    exact not_mem_of_checkDistinct hTakes.distinct
  rw [flips_gated_iff hTakes hOutside]
  unfold Flips
  rw [GateCall.gate_undo, GateCall.controls_undo,
    Gate.isBitFlip_adjoint]

/- The undoing call is taken, with the bit that the call has left. -/
theorem Takes.undo
    (hTakes : sim.Takes call bit) :
    (sim.gated call bit).Takes call.undo
      (if sim.Flips call then !bit else bit) where
  target_live := by
    rw [GateCall.target_undo, get?_gated hTakes]
    by_cases hFlips : sim.Flips call
    · rw [if_pos ⟨rfl, hFlips⟩, if_pos hFlips]
    · rw [if_neg (fun hBoth => hFlips hBoth.2), if_neg hFlips]
      exact hTakes.target_live
  controls_live := by
    rw [GateCall.controls_undo,
      HandleTable.checkLive_eq_of_shape_eq (shape_gated hTakes)]
    exact hTakes.controls_live
  distinct := by
    rw [GateCall.controls_undo, GateCall.target_undo]
    exact hTakes.distinct
  supported := by
    rw [GateCall.gate_undo, Gate.isBitFlip_adjoint,
      Gate.isDiagonal_adjoint]
    exact hTakes.supported

/- What a call has flipped is flipped back. -/
theorem gated_undo
    (hTakes : sim.Takes call bit) :
    (sim.gated call bit).gated call.undo
        (if sim.Flips call then !bit else bit) =
      sim := by
  by_cases hFlips : sim.Flips call
  · rw [gated_of_flips ((flips_undo_iff hTakes).mpr hFlips),
      if_pos hFlips, Bool.not_not, GateCall.target_undo,
      gated_of_flips hFlips, HandleTable.overwrite_overwrite,
      HandleTable.overwrite_of_live hTakes.target_live]
  · rw [gated_of_not_flips (mt (flips_undo_iff hTakes).mp hFlips),
      gated_of_not_flips hFlips]

/- The undoing call is accepted and gives the state back. -/
theorem perform_undo
    (hAccepted : (call.request.run.perform sim).1 = .ok .done) :
    call.undo.request.run.perform
        (call.request.run.perform sim).2 =
      (.ok .done, sim) := by
  rcases exists_takes hAccepted with ⟨bit, hTakes⟩
  rw [hTakes.perform_run, hTakes.undo.perform_run,
    gated_undo hTakes]

/-
  A circuit that is accepted is undone, by induction on its
  length: the rest is undone before the first call is.
-/
theorem run_undoing
    {circuit : List (GateCall R)}
    (hAccepted :
      AllDone (runRequests sim (circuit.map (·.request))).1) :
    let after :=
      runRequests
        (runRequests sim (circuit.map (·.request))).2
        ((GateCall.undoing circuit).map (·.request))
    AllDone after.1 ∧ after.2 = sim := by
  induction circuit generalizing sim with
  | nil => exact ⟨nofun, rfl⟩
  | cons call rest ih =>
      rw [List.map_cons, runRequests_cons, allDone_cons_iff]
        at hAccepted
      rcases hAccepted with ⟨hCall, hRest⟩
      rcases ih hRest with ⟨hReplies, hBack⟩
      have hUndo := perform_undo hCall
      simp only [GateCall.undoing, List.map_cons,
        List.reverse_cons, List.map_append, List.map_nil,
        runRequests_append, runRequests_cons, runRequests_nil]
      rw [GateCall.undoing] at hReplies hBack
      rw [hBack, hUndo]
      refine ⟨?_, rfl⟩
      intro reply hMem
      rcases List.mem_append.mp hMem with hEarly | hLast
      · exact hReplies reply hEarly
      · exact List.mem_singleton.mp hLast

end Toffoli

------------------------------------------------------------
-- State vectors
------------------------------------------------------------

namespace StateVector

/- An action that is undone pair by pair is undone. -/
theorem pairImage_pairImage
    {R : Type}
    {f inverse :
      Amplitude R → Amplitude R → Amplitude R × Amplitude R}
    (hInverse : ∀ a b, inverse (f a b).1 (f a b).2 = (a, b))
    (mask target : Nat)
    (old : Nat → Amplitude R)
    (i : Nat) :
    pairImage inverse mask target
        (pairImage f mask target old) i =
      old i := by
  rw [pairImage_eq]
  by_cases hHolds : Holds mask (putBit target false i)
  · rw [if_pos hHolds, pairAt_pairImage_of_holds hHolds, hInverse]
    exact side_pairAt target old i
  · rw [if_neg hHolds, pairImage_eq, if_neg hHolds]

/- The adjoint gate undoes a gate under any mask. -/
theorem applyGate_adjoint
    (g : Gate ℝ)
    (mask : Nat)
    {target : Nat}
    (s : StateVector ℝ)
    (hTarget : target < s.qubitCount) :
    (s.applyGate g mask target).applyGate g.adjoint mask target =
      s := by
  apply ext_amplitude
  · simp
  · intro i hIndex
    rw [qubitCount_applyGate, qubitCount_applyGate] at hIndex
    rw [amplitude_applyGate_applyGate _ _ _ _ s hTarget hTarget
      hIndex]
    exact pairImage_pairImage (gateAction_adjoint g) mask target
      s.amplitude i

/- A gate with the mask and the target that it is applied under. -/
structure MaskedGate (R : Type) where
  gate : Gate R
  mask : Nat
  target : Nat

/- The adjoint gate under the same mask. -/
def MaskedGate.undo
    {R : Type}
    [Neg R]
    (step : MaskedGate R) : MaskedGate R :=
  { step with gate := step.gate.adjoint }

/- The gates that undo a list of gates, the last one first. -/
def undoing
    {R : Type}
    [Neg R]
    (steps : List (MaskedGate R)) : List (MaskedGate R) :=
  (steps.map MaskedGate.undo).reverse

/- Apply gates one after the other. -/
def applyAll
    {R : Type}
    [Scalar R]
    (steps : List (MaskedGate R))
    (s : StateVector R) : StateVector R :=
  steps.foldl
    (fun current step =>
      current.applyGate step.gate step.mask step.target)
    s

/- Gates are undone by their adjoints, the last one first. -/
theorem applyAll_undoing
    {steps : List (MaskedGate ℝ)}
    {s : StateVector ℝ}
    (hTargets : ∀ step ∈ steps, step.target < s.qubitCount) :
    applyAll (undoing steps) (applyAll steps s) = s := by
  induction steps generalizing s with
  | nil => rfl
  | cons step rest ih =>
      rw [List.forall_mem_cons] at hTargets
      have hRest :=
        ih (s := s.applyGate step.gate step.mask step.target)
          (by simpa using hTargets.2)
      calc
        applyAll (undoing (step :: rest))
            (applyAll (step :: rest) s) =
          (applyAll (undoing rest)
            (applyAll rest
              (s.applyGate step.gate step.mask
                step.target))).applyGate
            step.gate.adjoint step.mask step.target := by
          rw [undoing, List.map_cons, List.reverse_cons,
            applyAll, List.foldl_append]
          rfl
        _ = s := by
          rw [hRest]
          exact applyGate_adjoint step.gate step.mask s
            hTargets.1

end StateVector

------------------------------------------------------------
-- Circuits
------------------------------------------------------------

/-
  A circuit followed by its adjoint restores the state. On the
  simulator of bits, from any state, the calls that undo a
  circuit of accepted calls are all accepted and end in the
  state that the circuit was started from. On a state vector of
  real numbers every gate is undone on all amplitudes, whatever
  its mask selects.
-/
theorem adjoint_circuit_restores_state
    {R : Type}
    [Scalar R] :
    (∀ (sim : Toffoli R) (circuit : List (GateCall R)),
      AllDone (runRequests sim (circuit.map (·.request))).1 →
      let after :=
        runRequests
          (runRequests sim (circuit.map (·.request))).2
          ((GateCall.undoing circuit).map (·.request))
      AllDone after.1 ∧ after.2 = sim) ∧
      ∀ (s : StateVector ℝ)
        (steps : List (StateVector.MaskedGate ℝ)),
        (∀ step ∈ steps, step.target < s.qubitCount) →
        StateVector.applyAll (StateVector.undoing steps)
            (StateVector.applyAll steps s) =
          s :=
  ⟨fun _ _ => Toffoli.run_undoing,
    fun _ _ => StateVector.applyAll_undoing⟩

/-
  A controlled flip is undone on bits. On two real qubits a
  turn is undone, and so is a gate whose control is its target,
  which selects no pair.
-/
theorem controlled_flip_and_turn_are_undone :
    let sim : Toffoli Float :=
      (runRequests (.start .tracked)
        [.allocateQubit, .allocateQubit, .apply .x ⟨0⟩]).2
    let circuit : List (GateCall Float) :=
      [.controlled .x [⟨0⟩] ⟨1⟩, .plain .s ⟨1⟩]
    let s : StateVector ℝ := .ground 2
    let steps : List (StateVector.MaskedGate ℝ) :=
      [⟨.h, 0, 0⟩, ⟨.rx 1, 1, 1⟩, ⟨.sx, 2, 1⟩]
    AllDone (runRequests sim (circuit.map (·.request))).1 ∧
      (∀ step ∈ steps, step.target < s.qubitCount) ∧
      (runRequests
        (runRequests sim (circuit.map (·.request))).2
        ((GateCall.undoing circuit).map (·.request))).2 = sim ∧
      StateVector.applyAll (StateVector.undoing steps)
          (StateVector.applyAll steps s) =
        s := by
  intro sim circuit s steps
  have hAccepted :
      AllDone (runRequests sim (circuit.map (·.request))).1 := by
    decide
  have hTargets :
      ∀ step ∈ steps, step.target < s.qubitCount := by
    simp [steps, s, StateVector.ground]
  rcases adjoint_circuit_restores_state (R := Float) with
    ⟨hBits, hVector⟩
  exact
    ⟨hAccepted, hTargets, (hBits sim circuit hAccepted).2,
      hVector s steps hTargets⟩

end QuantumRuntime

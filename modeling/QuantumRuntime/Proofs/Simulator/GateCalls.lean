import QuantumRuntime.Proofs.Simulator.Bookkeeping
import QuantumRuntime.Proofs.Simulator.Controls
import QuantumRuntime.Proofs.Simulator.Positions

/-
  This file describes the calls that apply a gate, with or
  without controls, as one kind of data, and says for each
  simulator when it takes such a call and what the call leaves.
  A call without controls is taken like a controlled one with an
  empty list of controls.

  Key definitions include:
    * `GateCall`
    * `GateCall.request`
    * `FullState.Takes`
    * `Toffoli.Takes`
    * `Toffoli.gated`
    * `Tracer.Takes`
    * `Tracer.gated`

  Key theorems include:
    * `FullState.Takes.perform_run`
    * `FullState.exists_takes`
    * `Builtin.Reachable.dense`
    * `Toffoli.Takes.perform_run`
    * `Toffoli.exists_takes`
    * `Tracer.Takes.perform_run`
    * `Tracer.exists_takes`
-/

namespace QuantumRuntime

------------------------------------------------------------
-- Calls
------------------------------------------------------------

/- A call that applies a gate, with or without controls. -/
inductive GateCall (R : Type) where
  | plain (g : Gate R) (target : QubitId)
  | controlled
      (g : Gate R) (controls : List QubitId) (target : QubitId)
deriving DecidableEq, Repr

namespace GateCall

variable {R : Type}

/- The call as a request to a backend. -/
def request : GateCall R → Request R
  | plain g target => .apply g target
  | controlled g controls target =>
      .applyControlled g controls target

/- The gate that a call applies. -/
def gate : GateCall R → Gate R
  | plain g _ => g
  | controlled g _ _ => g

/- The controls of a call, which may be none. -/
def controls : GateCall R → List QubitId
  | plain _ _ => []
  | controlled _ controls _ => controls

/- The qubit that a call applies its gate to. -/
def target : GateCall R → QubitId
  | plain _ target => target
  | controlled _ _ target => target

/- All qubits that a call names. -/
def qubits
    (call : GateCall R) : List QubitId :=
  call.target :: call.controls

end GateCall

------------------------------------------------------------
-- The simulator of the full state
------------------------------------------------------------

namespace FullState

variable {R : Type} [Scalar R]
variable {sim : FullState R} {call : GateCall R}

/-
  The simulator of the full state takes a call when its qubits
  are live and no qubit is named twice.
-/
structure Takes
    (sim : FullState R)
    (call : GateCall R)
    (mask position : Nat) : Prop where
  target_live :
    sim.qubits.get? call.target = some position
  mask_eq :
    controlMask sim.qubits call.controls = .ok mask
  distinct :
    checkDistinct call.controls call.target = .ok ()

/- A call that is taken applies its gate under its mask. -/
theorem Takes.perform_run
    {mask position : Nat}
    (hTakes : sim.Takes call mask position) :
    call.request.run.perform sim =
      (.ok .done, sim.applied call.gate mask position) := by
  rcases hTakes with ⟨hTarget, hMask, hDistinct⟩
  cases call with
  | plain g target =>
      dsimp only [GateCall.target, GateCall.controls] at *
      cases hMask
      have hPerform := perform_apply g target sim
      rw [HandleTable.get_of_live hTarget] at hPerform
      exact Request.run_apply hPerform
  | controlled g controls target =>
      dsimp only [GateCall.target, GateCall.controls] at *
      have hPerform :=
        perform_applyControlled g controls target sim
      rw [HandleTable.get_of_live hTarget, hMask, hDistinct]
        at hPerform
      exact Request.run_applyControlled hPerform

/- A call that is accepted is taken. -/
theorem exists_takes
    (hAccepted : (call.request.run.perform sim).1 = .ok .done) :
    ∃ mask position, sim.Takes call mask position := by
  have hEffect := sim.effect call.request
  rw [hAccepted] at hEffect
  generalize (call.request.run.perform sim).2 = after at hEffect
  cases call with
  | plain g target =>
      cases hEffect with
      | applied _ _ position hLive =>
          exact ⟨0, position, hLive, rfl, rfl⟩
  | controlled g controls target =>
      cases hEffect with
      | controlled _ _ _ mask position hLive hMask hDistinct =>
          exact ⟨mask, position, hLive, hMask, hDistinct⟩

omit [Scalar R] in
/- The mask of a call has no bit but the positions of its controls. -/
theorem Takes.testBit_mask
    {order : List QubitId}
    {mask position : Nat}
    (hTakes : sim.Takes call mask position)
    (hDense : sim.Dense order)
    {q : QubitId}
    {other : Nat}
    (hLive : sim.qubits.get? q = some other)
    (hOutside : q ∉ call.controls) :
    mask.testBit other = false := by
  rw [Bool.eq_false_iff]
  intro hSet
  rcases (testBit_controlMask hTakes.mask_eq other).mp hSet with
    ⟨c, hControl, hPosition⟩
  rw [hDense.eq_of_position hLive hPosition] at hOutside
  exact hOutside hControl

end FullState

------------------------------------------------------------
-- Reachable states
------------------------------------------------------------

namespace Builtin

variable {R : Type} [Scalar R] {b : Builtin R}

/- A run from a reachable state ends in one. -/
theorem Reachable.run
    (hReachable : b.Reachable)
    (requests : List (Request R)) :
    (runRequests b requests).2.Reachable := by
  induction requests generalizing b with
  | nil => exact hReachable
  | cons request rest ih =>
      exact ih (hReachable.request request)

/-
  What holds of fresh simulators of the full state and is kept
  by every request holds of all that can be reached.
-/
theorem Reachable.fullState_induction
    (Kept : FullState R → Prop)
    (hFresh : ∀ init : FullState R, init.Fresh → Kept init)
    (hStep :
      ∀ (sim : FullState R) (request : Request R),
        Kept sim → Kept (request.run.perform sim).2)
    (hReachable : b.Reachable)
    {sim : FullState R}
    (hState : b = .fullState sim) :
    Kept sim := by
  induction hReachable generalizing sim with
  | fullState init hInit =>
      cases hState
      exact hFresh init hInit
  | toffoli | tracer | stub => cases hState
  | request request before _ ih =>
      cases before with
      | fullState old =>
          rw [fullState_morphism.run_eq] at hState
          cases hState
          exact hStep old request (ih rfl)
      | toffoli old =>
          rw [toffoli_morphism.run_eq] at hState
          cases hState
      | tracer old =>
          rw [tracer_morphism.run_eq] at hState
          cases hState
      | stub old =>
          rw [stub_morphism.run_eq] at hState
          cases hState
  | takeMetrics before _ ih =>
      cases before with
      | fullState old =>
          cases hState
          exact ih rfl
      | _ => cases hState

/- In every state that can be reached positions are dense. -/
theorem Reachable.dense
    (hReachable : b.Reachable)
    {sim : FullState R}
    (hState : b = .fullState sim) :
    ∃ order, sim.Dense order := by
  refine hReachable.fullState_induction
    (fun sim => ∃ order, sim.Dense order) ?_ ?_ hState
  · intro init hFresh
    exact ⟨[], hFresh.untouched.dense⟩
  · rintro old request ⟨order, hDense⟩
    exact ⟨_, hDense.step (old.effect request)⟩

end Builtin

------------------------------------------------------------
-- The simulator of bits
------------------------------------------------------------

namespace Toffoli

variable {R : Type}
variable {sim : Toffoli R} {call : GateCall R} {bit : Bool}

/-
  The simulator of bits takes a call when its qubits are live,
  no qubit is named twice, and the gate creates no
  superposition.
-/
structure Takes
    (sim : Toffoli R)
    (call : GateCall R)
    (bit : Bool) : Prop where
  target_live :
    sim.qubits.get? call.target = some bit
  controls_live :
    sim.qubits.checkLive "apply_controlled" call.controls = .ok ()
  distinct :
    checkDistinct call.controls call.target = .ok ()
  supported :
    call.gate.IsBitFlip ∨ call.gate.IsDiagonal

/- A call flips its target. -/
def Flips
    (sim : Toffoli R)
    (call : GateCall R) : Prop :=
  call.gate.IsBitFlip ∧ ControlsSet sim.qubits call.controls

instance
    (sim : Toffoli R)
    (call : GateCall R) :
    Decidable (sim.Flips call) := by
  unfold Flips
  infer_instance

/- The simulator after a call whose target had some bit. -/
def gated
    (call : GateCall R)
    (bit : Bool)
    (sim : Toffoli R) : Toffoli R :=
  if sim.Flips call then
    { sim with qubits := sim.qubits.overwrite call.target (!bit) }
  else
    sim

theorem gated_of_flips
    (hFlips : sim.Flips call)
    (bit : Bool) :
    sim.gated call bit =
      { sim with
        qubits := sim.qubits.overwrite call.target (!bit) } :=
  if_pos hFlips

theorem gated_of_not_flips
    (hFlips : ¬ sim.Flips call)
    (bit : Bool) :
    sim.gated call bit = sim :=
  if_neg hFlips

/- A target is turned when its gate is a flip and its controls are set. -/
theorem gated_eq_turned
    (call : GateCall R)
    (bit : Bool)
    (sim : Toffoli R) :
    sim.gated call bit =
      if ControlsSet sim.qubits call.controls then
        sim.turned call.gate call.target bit
      else
        sim := by
  unfold gated turned Flips
  by_cases hSet : ControlsSet sim.qubits call.controls
  · simp only [hSet, and_true, if_true]
  · simp only [hSet, and_false, if_false]

/- A call writes no qubit but its target. -/
theorem get?_gated
    (hTakes : sim.Takes call bit)
    (q : QubitId) :
    (sim.gated call bit).qubits.get? q =
      if q = call.target ∧ sim.Flips call then
        some (!bit)
      else
        sim.qubits.get? q := by
  by_cases hFlips : sim.Flips call
  · rw [gated_of_flips hFlips, HandleTable.get?_overwrite
      (HandleTable.issued_of_get?_eq_some _ hTakes.target_live)]
    exact if_congr (by simp [hFlips]) rfl rfl
  · rw [gated_of_not_flips hFlips, if_neg (by simp [hFlips])]

/- A call keeps the shape of the table of qubits. -/
theorem shape_gated
    (hTakes : sim.Takes call bit) :
    (sim.gated call bit).qubits.shape = sim.qubits.shape := by
  by_cases hFlips : sim.Flips call
  · rw [gated_of_flips hFlips]
    exact HandleTable.shape_overwrite hTakes.target_live _
  · rw [gated_of_not_flips hFlips]

/- A call does not matter to one that does not name its target. -/
theorem get?_gated_of_ne
    (hTakes : sim.Takes call bit)
    {q : QubitId}
    (hOther : q ≠ call.target) :
    (sim.gated call bit).qubits.get? q = sim.qubits.get? q := by
  rw [get?_gated hTakes, if_neg (fun hAt => hOther hAt.1)]

/- Whether a call flips is decided by its controls alone. -/
theorem flips_gated_iff
    {next : GateCall R}
    (hTakes : sim.Takes call bit)
    (hOutside : call.target ∉ next.controls) :
    (sim.gated call bit).Flips next ↔ sim.Flips next := by
  have hControls (c : QubitId) (hMem : c ∈ next.controls) :
      (sim.gated call bit).qubits.get? c =
        sim.qubits.get? c := by
    apply get?_gated_of_ne hTakes
    rintro rfl
    exact hOutside hMem
  unfold Flips ControlsSet
  refine and_congr_right fun _ => forall₂_congr fun c hMem => ?_
  rw [hControls c hMem]

variable [Scalar R]

theorem checkGate_eq_ok_iff
    (sim : Toffoli R)
    (operation : String)
    (g : Gate R) :
    sim.checkGate operation g = .ok () ↔
      g.IsBitFlip ∨ g.IsDiagonal := by
  unfold checkGate
  split
  · next hSupported => exact iff_of_true rfl hSupported
  · next hSupported => exact iff_of_false nofun hSupported

/- A call that is taken flips its target or does nothing. -/
theorem Takes.perform_run
    {bit : Bool}
    (hTakes : sim.Takes call bit) :
    call.request.run.perform sim =
      (.ok .done, sim.gated call bit) := by
  rcases hTakes with ⟨hTarget, hControls, hDistinct, hSupported⟩
  rw [gated_eq_turned]
  cases call with
  | plain g target =>
      dsimp only [GateCall.target, GateCall.gate] at *
      have hPerform := perform_apply_of_live hTarget g
      rw [(sim.checkGate_eq_ok_iff "apply" g).mpr hSupported]
        at hPerform
      rw [if_pos (by simp [ControlsSet, GateCall.controls])]
      exact Request.run_apply hPerform
  | controlled g controls target =>
      dsimp only [GateCall.target, GateCall.controls,
        GateCall.gate] at *
      have hPerform :=
        perform_applyControlled g controls target sim
      rw [HandleTable.get_of_live hTarget, hControls, hDistinct,
        (sim.checkGate_eq_ok_iff "apply_controlled" g).mpr
          hSupported] at hPerform
      exact Request.run_applyControlled hPerform

/- A call without controls that is accepted is taken. -/
private theorem exists_takes_plain
    {g : Gate R}
    {target : QubitId}
    (hAccepted :
      ((Request.apply g target).run.perform sim).1 = .ok .done) :
    ∃ bit, sim.Takes (.plain g target) bit := by
  cases hTarget : sim.qubits.get? target with
  | none =>
      rw [Request.run_apply (perform_apply_of_dead hTarget g)]
        at hAccepted
      cases hAccepted
  | some bit =>
      rw [Request.run_apply (perform_apply_of_live hTarget g)]
        at hAccepted
      cases hGate : sim.checkGate "apply" g with
      | error e =>
          rw [hGate] at hAccepted
          cases hAccepted
      | ok _ =>
          exact ⟨bit, hTarget, rfl, rfl,
            (sim.checkGate_eq_ok_iff "apply" g).mp hGate⟩

/- A controlled call that is accepted is taken. -/
private theorem exists_takes_controlled
    {g : Gate R}
    {controls : List QubitId}
    {target : QubitId}
    (hAccepted :
      ((Request.applyControlled g controls target).run.perform
        sim).1 = .ok .done) :
    ∃ bit, sim.Takes (.controlled g controls target) bit := by
  rw [Request.run_applyControlled
    (perform_applyControlled g controls target sim)] at hAccepted
  cases hTarget : sim.qubits.get? target with
  | none =>
      rw [HandleTable.get_of_dead hTarget] at hAccepted
      cases hAccepted
  | some bit =>
      rw [HandleTable.get_of_live hTarget] at hAccepted
      cases hControls :
          sim.qubits.checkLive "apply_controlled" controls with
      | error e =>
          rw [hControls] at hAccepted
          cases hAccepted
      | ok _ =>
          cases hDistinct : checkDistinct controls target with
          | error e =>
              rw [hControls, hDistinct] at hAccepted
              cases hAccepted
          | ok _ =>
              cases hGate :
                  sim.checkGate "apply_controlled" g with
              | error e =>
                  rw [hControls, hDistinct, hGate] at hAccepted
                  cases hAccepted
              | ok _ =>
                  exact ⟨bit, hTarget, hControls, hDistinct,
                    (sim.checkGate_eq_ok_iff _ g).mp hGate⟩

/- A call that is accepted is taken. -/
theorem exists_takes
    (hAccepted : (call.request.run.perform sim).1 = .ok .done) :
    ∃ bit, sim.Takes call bit := by
  cases call with
  | plain g target => exact exists_takes_plain hAccepted
  | controlled g controls target =>
      exact exists_takes_controlled hAccepted

end Toffoli

------------------------------------------------------------
-- The tracer
------------------------------------------------------------

namespace Tracer

variable {R : Type}
variable {tracer : Tracer R} {call : GateCall R}

/-
  The tracer takes a call when its qubits are live and no qubit
  is named twice.
-/
structure Takes
    (tracer : Tracer R)
    (call : GateCall R)
    (layer : Nat) : Prop where
  target_live :
    tracer.qubits.get? call.target = some layer
  controls_live :
    ∀ c ∈ call.controls, tracer.qubits.Live c
  distinct :
    checkDistinct call.controls call.target = .ok ()

/- The tracer after a call has been counted. -/
def counted
    (call : GateCall R)
    (tracer : Tracer R) : Tracer R :=
  match call with
  | .plain g _ => tracer.gateCounted g
  | .controlled g _ _ => tracer.controlledCounted g

/- The layer that a call comes in. -/
def layerOf
    (call : GateCall R)
    (layer : Nat)
    (tracer : Tracer R) : Nat :=
  latestLayer tracer.qubits layer call.controls + 1

/- The tracer after a call whose target was in some layer. -/
def gated
    (call : GateCall R)
    (layer : Nat)
    (tracer : Tracer R) : Tracer R :=
  (tracer.moved (call.controls ++ [call.target])
    (tracer.layerOf call layer)).counted call

variable [Scalar R]

/- A call that is taken moves its qubits and is counted. -/
theorem Takes.perform_run
    {layer : Nat}
    (hTakes : tracer.Takes call layer) :
    call.request.run.perform tracer =
      (.ok .done, tracer.gated call layer) := by
  rcases hTakes with ⟨hTarget, hControls, hDistinct⟩
  cases call with
  | plain g target =>
      exact Request.run_apply (perform_apply_of_live hTarget g)
  | controlled g controls target =>
      dsimp only [GateCall.target, GateCall.controls] at *
      have hPerform :=
        perform_applyControlled g controls target tracer
      rw [HandleTable.get_of_live hTarget,
        (HandleTable.checkLive_eq_ok_iff _ _ _).mpr hControls,
        hDistinct] at hPerform
      exact Request.run_applyControlled hPerform

/- A call that is accepted is taken. -/
theorem exists_takes
    (hAccepted : (call.request.run.perform tracer).1 = .ok .done) :
    ∃ layer, tracer.Takes call layer := by
  have hEffect := tracer.effect call.request
  rw [hAccepted] at hEffect
  generalize (call.request.run.perform tracer).2 = after at hEffect
  cases call with
  | plain g target =>
      cases hEffect with
      | applied _ _ layer hLive =>
          exact ⟨layer, hLive, nofun, rfl⟩
  | controlled g controls target =>
      cases hEffect with
      | controlled _ _ _ layer hLive hControls hDistinct =>
          exact ⟨layer, hLive, hControls, hDistinct⟩

end Tracer

end QuantumRuntime

import Mathlib
import QuantumRuntime.Proofs.HandleTable.KeyLists
import QuantumRuntime.Simulator.FullState

/-
  This file describes the mask that a list of controls stands
  for: it exists when every control is live, and its bits are
  the positions of the controls.

  Key theorems include:
    * `FullState.map_controlMask`
    * `FullState.testBit_controlMask`
    * `FullState.controlMask_eq_ok_iff`
    * `not_mem_of_checkDistinct`
-/

namespace QuantumRuntime

namespace FullState

/- Add the position of a control to a mask. -/
def addControl
    (qubits : HandleTable QubitId Nat)
    (mask : Nat)
    (c : QubitId) : Except BackendError Nat := do
  let position ← qubits.get c "apply_controlled"
  .ok (mask ||| 1 <<< position)

theorem addControl_of_live
    {qubits : HandleTable QubitId Nat}
    {c : QubitId}
    {position : Nat}
    (hLive : qubits.get? c = some position)
    (mask : Nat) :
    addControl qubits mask c = .ok (mask ||| 2 ^ position) := by
  rw [addControl, HandleTable.get_of_live hLive,
    ← Nat.one_shiftLeft]
  rfl

theorem addControl_of_dead
    {qubits : HandleTable QubitId Nat}
    {c : QubitId}
    (hDead : qubits.get? c = none)
    (mask : Nat) :
    addControl qubits mask c =
      .error (qubits.violation c "apply_controlled") := by
  rw [addControl, HandleTable.get_of_dead hDead]
  rfl

/- A mask is refused for the first control that is not live. -/
theorem map_foldlM_addControl
    (qubits : HandleTable QubitId Nat)
    (mask : Nat)
    (controls : List QubitId) :
    (controls.foldlM (addControl qubits) mask).map (fun _ => ()) =
      qubits.checkLive "apply_controlled" controls := by
  induction controls generalizing mask with
  | nil => rfl
  | cons c rest ih =>
      rw [List.foldlM_cons, HandleTable.checkLive]
      cases hKey : qubits.get? c with
      | some position =>
          rw [addControl_of_live hKey, HandleTable.get_of_live hKey]
          exact ih _
      | none =>
          rw [addControl_of_dead hKey, HandleTable.get_of_dead hKey]
          rfl

theorem map_controlMask
    (qubits : HandleTable QubitId Nat)
    (controls : List QubitId) :
    (controlMask qubits controls).map (fun _ => ()) =
      qubits.checkLive "apply_controlled" controls :=
  map_foldlM_addControl qubits 0 controls

/- Adding controls to a mask sets their positions in it. -/
theorem testBit_foldlM_addControl
    {qubits : HandleTable QubitId Nat}
    {start mask : Nat}
    {controls : List QubitId}
    (hMask : controls.foldlM (addControl qubits) start = .ok mask)
    (k : Nat) :
    mask.testBit k = true ↔
      start.testBit k = true ∨
        ∃ c ∈ controls, qubits.get? c = some k := by
  induction controls generalizing start with
  | nil =>
      cases hMask
      simp
  | cons c rest ih =>
      rw [List.foldlM_cons] at hMask
      cases hKey : qubits.get? c with
      | some position =>
          rw [addControl_of_live hKey] at hMask
          rw [ih hMask, Nat.testBit_or, Nat.testBit_two_pow]
          simp [hKey, or_assoc]
      | none =>
          rw [addControl_of_dead hKey] at hMask
          cases hMask

/- The bits of a mask are the positions of its controls. -/
theorem testBit_controlMask
    {qubits : HandleTable QubitId Nat}
    {controls : List QubitId}
    {mask : Nat}
    (hMask : controlMask qubits controls = .ok mask)
    (k : Nat) :
    mask.testBit k = true ↔
      ∃ c ∈ controls, qubits.get? c = some k := by
  rw [testBit_foldlM_addControl hMask k]
  simp

/-
  A list of controls has a mask when all of them are live: the
  number whose bits are their positions.
-/
theorem controlMask_eq_ok_iff
    (qubits : HandleTable QubitId Nat)
    (controls : List QubitId)
    (mask : Nat) :
    controlMask qubits controls = .ok mask ↔
      (∀ c ∈ controls, qubits.Live c) ∧
        ∀ k, mask.testBit k = true ↔
          ∃ c ∈ controls, qubits.get? c = some k := by
  rw [← qubits.checkLive_eq_ok_iff "apply_controlled",
    ← map_controlMask]
  constructor
  · intro hMask
    exact ⟨by rw [hMask]; rfl, testBit_controlMask hMask⟩
  · rintro ⟨hLive, hBits⟩
    cases hMask : controlMask qubits controls with
    | error e =>
        rw [hMask] at hLive
        cases hLive
    | ok mask' =>
        have hSame : mask' = mask := by
          apply Nat.eq_of_testBit_eq
          intro k
          rw [Bool.eq_iff_iff, testBit_controlMask hMask, hBits]
        rw [hSame]

end FullState

/- Controls that are distinct do not include the target. -/
theorem not_mem_of_checkDistinctFrom
    {earlier controls : List QubitId}
    {target : QubitId}
    (hDistinct :
      checkDistinctFrom earlier target controls = .ok ()) :
    target ∉ controls := by
  induction controls generalizing earlier with
  | nil => exact List.not_mem_nil
  | cons c rest ih =>
      unfold checkDistinctFrom at hDistinct
      split at hDistinct
      · cases hDistinct
      · next hOther =>
          split at hDistinct
          · cases hDistinct
          · rw [List.mem_cons, not_or]
            exact ⟨fun hEq => hOther hEq.symm, ih hDistinct⟩

theorem not_mem_of_checkDistinct
    {controls : List QubitId}
    {target : QubitId}
    (hDistinct : checkDistinct controls target = .ok ()) :
    target ∉ controls :=
  not_mem_of_checkDistinctFrom hDistinct

end QuantumRuntime

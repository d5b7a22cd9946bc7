import QuantumRuntime.Proofs.HandleTable.KeyLists
import QuantumRuntime.Proofs.Performance
import QuantumRuntime.Simulator.Toffoli

/-
  This file says once what each request does to the simulator
  that keeps one bit for each qubit: which answer it gives,
  under which condition, and which simulator it leaves.

  Key definitions include:
    * `Toffoli.ControlsSet`
    * `Toffoli.turned`
    * `Toffoli.handOut`

  Key theorems include:
    * `Toffoli.allOne_of_checkLive`
    * `Toffoli.perform_apply_of_live`
    * `Toffoli.perform_applyControlled`
    * `Toffoli.perform_measure_of_live`
-/

namespace QuantumRuntime

namespace Toffoli

variable {R : Type}

------------------------------------------------------------
-- Allocating and releasing
------------------------------------------------------------

theorem perform_allocateQubit
    (sim : Toffoli R) :
    (allocateQubit (R := R)).perform sim =
      (.ok (sim.qubits.insert false).1,
        { sim with
          qubits :=
            (sim.qubits.insert false :
              QubitId × HandleTable QubitId Bool).2 }) :=
  rfl

theorem perform_releaseQubit_of_live
    {sim : Toffoli R}
    {q : QubitId}
    {bit : Bool}
    (hLive : sim.qubits.get? q = some bit) :
    (releaseQubit q).perform sim =
      (.ok (), { sim with qubits := sim.qubits.without q }) := by
  simp only [releaseQubit, Action.perform_bind,
    Action.perform_get, Action.perform_ofExcept,
    HandleTable.release_of_live hLive, Action.perform_modify]

theorem perform_releaseQubit_of_dead
    {sim : Toffoli R}
    {q : QubitId}
    (hDead : sim.qubits.get? q = none) :
    (releaseQubit q).perform sim =
      (.error (sim.qubits.violation q "release_qubit"), sim) := by
  simp only [releaseQubit, Action.perform_bind,
    Action.perform_get, Action.perform_ofExcept,
    HandleTable.release_of_dead hDead]

------------------------------------------------------------
-- Gates
------------------------------------------------------------

/- The simulator after a gate on a qubit that had some bit. -/
def turned
    (g : Gate R)
    (target : QubitId)
    (bit : Bool)
    (sim : Toffoli R) : Toffoli R :=
  if g.IsBitFlip then
    { sim with qubits := sim.qubits.overwrite target (!bit) }
  else
    sim

theorem perform_flipBit_of_live
    {sim : Toffoli R}
    {target : QubitId}
    {bit : Bool}
    (hLive : sim.qubits.get? target = some bit)
    (g : Gate R)
    (operation : String) :
    (flipBit g operation target).perform sim =
      (.ok (), sim.turned g target bit) := by
  simp only [flipBit, turned, Action.perform_bind,
    Action.perform_get, Action.perform_ofExcept,
    HandleTable.get_of_live hLive]
  by_cases hFlip : g.IsBitFlip
  · simp only [if_pos hFlip, Action.perform_bind,
      Action.perform_ofExcept, HandleTable.replace_of_live hLive,
      Action.perform_modify]
  · simp only [if_neg hFlip]
    rfl

section

variable [Scalar R]

theorem perform_apply_of_live
    {sim : Toffoli R}
    {target : QubitId}
    {bit : Bool}
    (hLive : sim.qubits.get? target = some bit)
    (g : Gate R) :
    (apply g target).perform sim =
      match sim.checkGate "apply" g with
      | .ok _ => (.ok (), sim.turned g target bit)
      | .error e => (.error e, sim) := by
  simp only [apply, Action.perform_bind, Action.perform_get,
    Action.perform_ofExcept, HandleTable.get_of_live hLive]
  cases sim.checkGate "apply" g with
  | ok _ => exact perform_flipBit_of_live hLive g "apply"
  | error e => rfl

theorem perform_apply_of_dead
    {sim : Toffoli R}
    {target : QubitId}
    (hDead : sim.qubits.get? target = none)
    (g : Gate R) :
    (apply g target).perform sim =
      (.error (sim.qubits.violation target "apply"), sim) := by
  simp only [apply, Action.perform_bind, Action.perform_get,
    Action.perform_ofExcept, HandleTable.get_of_dead hDead]

end

/- All controls are live and one. -/
def ControlsSet
    (qubits : HandleTable QubitId Bool)
    (controls : List QubitId) : Prop :=
  ∀ c ∈ controls, qubits.get? c = some true

instance
    (qubits : HandleTable QubitId Bool)
    (controls : List QubitId) :
    Decidable (ControlsSet qubits controls) := by
  unfold ControlsSet
  infer_instance

/- Live controls are read up to the first that is zero. -/
theorem allOne_of_checkLive
    {qubits : HandleTable QubitId Bool}
    {controls : List QubitId}
    (hLive :
      qubits.checkLive "apply_controlled" controls = .ok ()) :
    allOne qubits controls =
      .ok (decide (ControlsSet qubits controls)) := by
  induction controls with
  | nil => rfl
  | cons c rest ih =>
      have hCons :
          ControlsSet qubits (c :: rest) ↔
            qubits.get? c = some true ∧
              ControlsSet qubits rest :=
        List.forall_mem_cons
      have hKeys := HandleTable.live_of_checkLive hLive
      rcases hKeys c List.mem_cons_self with ⟨bit, hKey⟩
      unfold HandleTable.checkLive at hLive
      unfold allOne
      rw [HandleTable.get_of_live hKey] at hLive ⊢
      cases bit with
      | false =>
          have hUnset : ¬ ControlsSet qubits (c :: rest) := by
            rw [hCons, hKey]
            simp
          rw [decide_eq_false hUnset]
          rfl
      | true =>
          have hSame :
              ControlsSet qubits (c :: rest) ↔
                ControlsSet qubits rest := by
            rw [hCons, hKey]
            simp
          rw [decide_eq_decide.mpr hSame]
          exact ih hLive

theorem perform_applyControlled
    [Scalar R]
    (g : Gate R)
    (controls : List QubitId)
    (target : QubitId)
    (sim : Toffoli R) :
    (applyControlled g controls target).perform sim =
      match sim.qubits.get target "apply_controlled",
        sim.qubits.checkLive "apply_controlled" controls,
        checkDistinct controls target,
        sim.checkGate "apply_controlled" g with
      | .ok bit, .ok _, .ok _, .ok _ =>
          (.ok (),
            if ControlsSet sim.qubits controls then
              sim.turned g target bit
            else
              sim)
      | .error e, _, _, _ => (.error e, sim)
      | _, .error e, _, _ => (.error e, sim)
      | _, _, .error e, _ => (.error e, sim)
      | _, _, _, .error e => (.error e, sim) := by
  simp only [applyControlled, Action.perform_bind,
    Action.perform_get, Action.perform_ofExcept]
  cases hKey : sim.qubits.get? target with
  | none =>
      rw [HandleTable.get_of_dead hKey]
  | some bit =>
      rw [HandleTable.get_of_live hKey]
      cases hLive :
          sim.qubits.checkLive "apply_controlled" controls with
      | error e => rfl
      | ok _ =>
          cases checkDistinct controls target with
          | error e => rfl
          | ok _ =>
              cases sim.checkGate "apply_controlled" g with
              | error e => rfl
              | ok _ =>
                  simp only [allOne_of_checkLive hLive]
                  by_cases hSet : ControlsSet sim.qubits controls
                  · simp only [hSet, decide_true, if_true]
                    exact perform_flipBit_of_live hKey g _
                  · simp only [hSet, decide_false, if_false]
                    rfl

------------------------------------------------------------
-- Measurements and results
------------------------------------------------------------

/- The simulator after an outcome has been handed out. -/
def handOut
    (outcome : Bool)
    (sim : Toffoli R) : ResultId × Toffoli R :=
  match sim.mode with
  | .tracked =>
      ((sim.results.insert outcome).1,
        { sim with
          results :=
            (sim.results.insert outcome :
              ResultId × HandleTable ResultId Bool).2 })
  | .canonical => (ResultId.ofBool outcome, sim)

/- The outcome of a bit in a basis, if the basis is classical. -/
def outcomeIn
    (bit : Bool) : Pauli → Option Bool
  | .z => some bit
  | .i => some false
  | .x | .y => none

theorem perform_measure_of_live
    {bases : List Pauli}
    {targets : List QubitId}
    {basis : Pauli}
    {target : QubitId}
    {bit : Bool}
    {sim : Toffoli R}
    (hSingle :
      singleMeasurement sim.name bases targets =
        .ok (basis, target))
    (hLive : sim.qubits.get? target = some bit) :
    (measure bases targets).perform sim =
      match outcomeIn bit basis with
      | some outcome =>
          (.ok (sim.handOut outcome).1, (sim.handOut outcome).2)
      | none =>
          (.error (.unsupported sim.name
            s!"measure in the {basis.text} basis"), sim) := by
  simp only [measure, Action.perform_bind, Action.perform_get,
    Action.perform_ofExcept, hSingle,
    HandleTable.get_of_live hLive]
  cases basis with
  | x | y => rfl
  | i | z =>
      cases hMode : sim.mode with
      | tracked => simp [outcomeIn, handOut, hMode, Except.map]
      | canonical => simp [outcomeIn, handOut, hMode]

theorem perform_measure_of_shape
    {bases : List Pauli}
    {targets : List QubitId}
    {e : BackendError}
    {sim : Toffoli R}
    (hSingle :
      singleMeasurement sim.name bases targets = .error e) :
    (measure bases targets).perform sim = (.error e, sim) := by
  simp only [measure, Action.perform_bind, Action.perform_get,
    Action.perform_ofExcept, hSingle]

theorem perform_measure_of_dead
    {bases : List Pauli}
    {targets : List QubitId}
    {basis : Pauli}
    {target : QubitId}
    {sim : Toffoli R}
    (hSingle :
      singleMeasurement sim.name bases targets =
        .ok (basis, target))
    (hDead : sim.qubits.get? target = none) :
    (measure bases targets).perform sim =
      (.error (sim.qubits.violation target "measure"), sim) := by
  simp only [measure, Action.perform_bind, Action.perform_get,
    Action.perform_ofExcept, hSingle,
    HandleTable.get_of_dead hDead]

theorem perform_releaseResult
    (r : ResultId)
    (sim : Toffoli R) :
    (releaseResult r).perform sim =
      if r.IsConstant ∨ sim.mode = .canonical then
        (.ok (), sim)
      else
        match sim.results.release r "release_result" with
        | .ok (_, results) =>
            (.ok (), { sim with results := results })
        | .error e => (.error e, sim) := by
  simp only [releaseResult, Action.perform_bind,
    Action.perform_get]
  by_cases hConstant : r.IsConstant ∨ sim.mode = .canonical
  · rw [if_pos hConstant, if_pos hConstant]
    rfl
  · rw [if_neg hConstant, if_neg hConstant]
    simp only [Action.perform_bind, Action.perform_ofExcept]
    rcases sim.results.release r "release_result" with
      e | ⟨bit, results⟩ <;> rfl

end Toffoli

end QuantumRuntime

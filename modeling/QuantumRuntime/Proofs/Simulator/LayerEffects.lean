import QuantumRuntime.Proofs.HandleTable.KeyLists
import QuantumRuntime.Proofs.Performance
import QuantumRuntime.Simulator.Tracer

/-
  This file says once what each request does to the tracer:
  which answer it gives, under which condition, and which
  tracer it leaves. An operation that is accepted moves all of
  its qubits to one layer and is counted once.

  Key definitions include:
    * `Tracer.latestLayer`
    * `Tracer.moved`
    * `Tracer.Effect`

  Key theorems include:
    * `Tracer.perform_advance_of_live`
    * `Tracer.perform_applyControlled`
    * `Tracer.effect`
-/

namespace QuantumRuntime

namespace Tracer

variable {R : Type}

------------------------------------------------------------
-- Layers
------------------------------------------------------------

/- The last layer among some qubits, and at least the given one. -/
def latestLayer
    (qubits : HandleTable QubitId Nat)
    (layer : Nat)
    (controls : List QubitId) : Nat :=
  controls.foldl
    (fun last c => max last ((qubits.get? c).getD 0)) layer

theorem lastLayer_eq
    (qubits : HandleTable QubitId Nat)
    (layer : Nat)
    (controls : List QubitId) :
    lastLayer qubits layer controls =
      (qubits.checkLive "apply_controlled" controls).map fun _ =>
        latestLayer qubits layer controls :=
  qubits.foldlM_get "apply_controlled" max layer controls

/- The tracer after an operation has put its qubits in a layer. -/
def moved
    (qs : List QubitId)
    (layer : Nat)
    (tracer : Tracer R) : Tracer R :=
  { tracer with
    qubits := tracer.qubits.overwriteAll qs layer
    metrics :=
      { tracer.metrics with depth := max tracer.metrics.depth layer } }

/- The tracer after a gate without controls has been counted. -/
def gateCounted
    (g : Gate R)
    (tracer : Tracer R) : Tracer R :=
  { tracer with
    metrics :=
      { tracer.metrics with
        gateCounts := tracer.metrics.gateCounts.increment g.name } }

/- The tracer after a controlled gate has been counted. -/
def controlledCounted
    (g : Gate R)
    (tracer : Tracer R) : Tracer R :=
  { tracer with
    metrics :=
      { tracer.metrics with
        controlledCounts :=
          tracer.metrics.controlledCounts.increment g.name } }

/- The tracer after a measurement has been counted. -/
def measurementCounted
    (tracer : Tracer R) : Tracer R :=
  { tracer with
    metrics :=
      { tracer.metrics with
        measurements := tracer.metrics.measurements + 1 } }

theorem perform_placeAt_of_live
    {tracer : Tracer R}
    {q : QubitId}
    (hLive : tracer.qubits.Live q)
    (operation : String)
    (layer : Nat) :
    (placeAt operation layer q).perform tracer =
      (.ok (),
        { tracer with qubits := tracer.qubits.overwrite q layer }) := by
  rcases (tracer.qubits.live_iff q).mp hLive with ⟨old, hOld⟩
  simp only [placeAt, Action.perform_bind, Action.perform_get,
    Action.perform_ofExcept, HandleTable.replace_of_live hOld,
    Action.perform_modify]

/- Live qubits can be moved one after the other. -/
theorem perform_placeAll_of_live
    {tracer : Tracer R}
    {qs : List QubitId}
    (hLive : ∀ q ∈ qs, tracer.qubits.Live q)
    (operation : String)
    (layer : Nat) :
    (qs.forM (placeAt operation layer)).perform tracer =
      (.ok (),
        { tracer with
          qubits := tracer.qubits.overwriteAll qs layer }) := by
  induction qs generalizing tracer with
  | nil => rfl
  | cons q rest ih =>
      rcases List.forall_mem_cons.mp hLive with ⟨hFirst, hRest⟩
      have hAfter :
          ∀ other ∈ rest,
            (tracer.qubits.overwrite q layer).Live other :=
        fun other hMem =>
          (HandleTable.live_overwrite_iff hFirst layer other).mpr
            (hRest other hMem)
      change (placeAt operation layer q >>= fun _ =>
        rest.forM (placeAt operation layer)).perform tracer = _
      rw [Action.perform_bind, perform_placeAt_of_live hFirst]
      exact ih hAfter

theorem perform_advance_of_live
    {tracer : Tracer R}
    {q : QubitId}
    {layer : Nat}
    (hLive : tracer.qubits.get? q = some layer)
    (operation : String) :
    (advance operation q).perform tracer =
      (.ok (), tracer.moved [q] (layer + 1)) := by
  have hSome : tracer.qubits.Live q :=
    (tracer.qubits.live_iff q).mpr ⟨layer, hLive⟩
  simp only [advance, Action.perform_bind, Action.perform_get,
    Action.perform_ofExcept, HandleTable.get_of_live hLive,
    perform_placeAt_of_live hSome]
  rfl

theorem perform_advance_of_dead
    {tracer : Tracer R}
    {q : QubitId}
    (hDead : tracer.qubits.get? q = none)
    (operation : String) :
    (advance operation q).perform tracer =
      (.error (tracer.qubits.violation q operation), tracer) := by
  simp only [advance, Action.perform_bind, Action.perform_get,
    Action.perform_ofExcept, HandleTable.get_of_dead hDead]

------------------------------------------------------------
-- Operations
------------------------------------------------------------

/- The tracer after a qubit has been allocated. -/
def allocated
    (tracer : Tracer R) : Tracer R :=
  let qubits :=
    (tracer.qubits.insert 0 : QubitId × HandleTable QubitId Nat).2
  { tracer with
    qubits := qubits
    metrics :=
      { tracer.metrics with
        qubitsAllocated := tracer.metrics.qubitsAllocated + 1
        peakWidth := max tracer.metrics.peakWidth qubits.liveCount } }

theorem perform_releaseQubit_of_live
    {tracer : Tracer R}
    {q : QubitId}
    {layer : Nat}
    (hLive : tracer.qubits.get? q = some layer) :
    (releaseQubit q).perform tracer =
      (.ok (), { tracer with qubits := tracer.qubits.without q }) := by
  simp only [releaseQubit, Action.perform_bind,
    Action.perform_get, Action.perform_ofExcept,
    HandleTable.release_of_live hLive, Action.perform_modify]

theorem perform_releaseQubit_of_dead
    {tracer : Tracer R}
    {q : QubitId}
    (hDead : tracer.qubits.get? q = none) :
    (releaseQubit q).perform tracer =
      (.error (tracer.qubits.violation q "release_qubit"),
        tracer) := by
  simp only [releaseQubit, Action.perform_bind,
    Action.perform_get, Action.perform_ofExcept,
    HandleTable.release_of_dead hDead]

theorem perform_apply_of_live
    {tracer : Tracer R}
    {target : QubitId}
    {layer : Nat}
    (hLive : tracer.qubits.get? target = some layer)
    (g : Gate R) :
    (apply g target).perform tracer =
      (.ok (), (tracer.moved [target] (layer + 1)).gateCounted g) := by
  simp only [apply, Action.perform_bind,
    perform_advance_of_live hLive]
  rfl

theorem perform_apply_of_dead
    {tracer : Tracer R}
    {target : QubitId}
    (hDead : tracer.qubits.get? target = none)
    (g : Gate R) :
    (apply g target).perform tracer =
      (.error (tracer.qubits.violation target "apply"), tracer) := by
  simp only [apply, Action.perform_bind,
    perform_advance_of_dead hDead]

theorem perform_applyControlled
    (g : Gate R)
    (controls : List QubitId)
    (target : QubitId)
    (tracer : Tracer R) :
    (applyControlled g controls target).perform tracer =
      match tracer.qubits.get target "apply_controlled",
        tracer.qubits.checkLive "apply_controlled" controls,
        checkDistinct controls target with
      | .ok layer, .ok _, .ok _ =>
          (.ok (),
            (tracer.moved (controls ++ [target])
              (latestLayer tracer.qubits layer controls +
                1)).controlledCounted g)
      | .error e, _, _ => (.error e, tracer)
      | _, .error e, _ => (.error e, tracer)
      | _, _, .error e => (.error e, tracer) := by
  simp only [applyControlled, Action.perform_bind,
    Action.perform_get, Action.perform_ofExcept, lastLayer_eq]
  cases hKey : tracer.qubits.get? target with
  | none => rw [HandleTable.get_of_dead hKey]
  | some layer =>
      rw [HandleTable.get_of_live hKey]
      cases hControls :
          tracer.qubits.checkLive "apply_controlled" controls with
      | error e => rfl
      | ok _ =>
          cases checkDistinct controls target with
          | error e => rfl
          | ok _ =>
              have hAll :
                  ∀ q ∈ controls ++ [target],
                    tracer.qubits.Live q := by
                intro q hMem
                rcases List.mem_append.mp hMem with
                  hControl | hTarget
                · exact (HandleTable.checkLive_eq_ok_iff _ _ _).mp
                    hControls q hControl
                · cases List.mem_singleton.mp hTarget
                  exact (tracer.qubits.live_iff target).mpr
                    ⟨layer, hKey⟩
              simp only [Except.map,
                perform_placeAll_of_live hAll]
              rfl

theorem perform_measure_of_live
    {bases : List Pauli}
    {targets : List QubitId}
    {basis : Pauli}
    {target : QubitId}
    {layer : Nat}
    {tracer : Tracer R}
    (hSingle :
      singleMeasurement tracer.name bases targets =
        .ok (basis, target))
    (hLive : tracer.qubits.get? target = some layer) :
    (measure bases targets).perform tracer =
      (.ok ResultId.zero,
        (tracer.moved [target] (layer + 1)).measurementCounted) := by
  simp only [measure, Action.perform_bind, Action.perform_get,
    Action.perform_ofExcept, hSingle,
    perform_advance_of_live hLive]
  rfl

theorem perform_measure_of_shape
    {bases : List Pauli}
    {targets : List QubitId}
    {e : BackendError}
    {tracer : Tracer R}
    (hSingle :
      singleMeasurement tracer.name bases targets = .error e) :
    (measure bases targets).perform tracer = (.error e, tracer) := by
  simp only [measure, Action.perform_bind, Action.perform_get,
    Action.perform_ofExcept, hSingle]

theorem perform_measure_of_dead
    {bases : List Pauli}
    {targets : List QubitId}
    {basis : Pauli}
    {target : QubitId}
    {tracer : Tracer R}
    (hSingle :
      singleMeasurement tracer.name bases targets =
        .ok (basis, target))
    (hDead : tracer.qubits.get? target = none) :
    (measure bases targets).perform tracer =
      (.error (tracer.qubits.violation target "measure"),
        tracer) := by
  simp only [measure, Action.perform_bind, Action.perform_get,
    Action.perform_ofExcept, hSingle,
    perform_advance_of_dead hDead]

------------------------------------------------------------
-- Effects
------------------------------------------------------------

/-
  What a request may answer and leave behind. Each constructor
  is one way for a request to end, with the condition for it.
-/
inductive Effect
    (tracer : Tracer R) :
    Request R → Except BackendError Reply → Tracer R → Prop
  | refused
      (request : Request R)
      (e : BackendError) :
      Effect tracer request (.error e) tracer
  | allocated :
      Effect tracer .allocateQubit
        (.ok (.qubit (tracer.qubits.insert 0).1)) tracer.allocated
  | released
      (q : QubitId)
      (hLive : tracer.qubits.Live q) :
      Effect tracer (.releaseQubit q) (.ok .done)
        { tracer with qubits := tracer.qubits.without q }
  | applied
      (g : Gate R)
      (target : QubitId)
      (layer : Nat)
      (hLive : tracer.qubits.get? target = some layer) :
      Effect tracer (.apply g target) (.ok .done)
        ((tracer.moved [target] (layer + 1)).gateCounted g)
  | controlled
      (g : Gate R)
      (controls : List QubitId)
      (target : QubitId)
      (layer : Nat)
      (hLive : tracer.qubits.get? target = some layer)
      (hControls : ∀ c ∈ controls, tracer.qubits.Live c)
      (hDistinct : checkDistinct controls target = .ok ()) :
      Effect tracer (.applyControlled g controls target) (.ok .done)
        ((tracer.moved (controls ++ [target])
          (latestLayer tracer.qubits layer controls +
            1)).controlledCounted g)
  | measured
      (bases : List Pauli)
      (targets : List QubitId)
      (basis : Pauli)
      (target : QubitId)
      (layer : Nat)
      (hSingle :
        singleMeasurement tracer.name bases targets =
          .ok (basis, target))
      (hLive : tracer.qubits.get? target = some layer) :
      Effect tracer (.measure bases targets)
        (.ok (.result ResultId.zero))
        (tracer.moved [target] (layer + 1)).measurementCounted
  | compared
      (r₁ r₂ : ResultId) :
      Effect tracer (.areEqualResults r₁ r₂)
        (.ok (.bit (r₁ = r₂))) tracer
  | resultKept
      (r : ResultId) :
      Effect tracer (.releaseResult r) (.ok .done) tracer
  | read
      (r : ResultId) :
      Effect tracer (.resultValue r)
        (.ok (.bit (r = ResultId.one))) tracer

/- Every request ends in one of these ways. -/
theorem effect
    [Scalar R]
    (tracer : Tracer R)
    (request : Request R) :
    tracer.Effect request (request.run.perform tracer).1
      (request.run.perform tracer).2 := by
  cases request with
  | allocateQubit => exact .allocated
  | releaseQubit q =>
      cases hKey : tracer.qubits.get? q with
      | some layer =>
          rw [Request.run_releaseQubit
            (perform_releaseQubit_of_live hKey)]
          exact .released q
            ((tracer.qubits.live_iff q).mpr ⟨layer, hKey⟩)
      | none =>
          rw [Request.run_releaseQubit
            (perform_releaseQubit_of_dead hKey)]
          exact .refused _ _
  | apply g target =>
      cases hKey : tracer.qubits.get? target with
      | some layer =>
          rw [Request.run_apply (perform_apply_of_live hKey g)]
          exact .applied g target layer hKey
      | none =>
          rw [Request.run_apply (perform_apply_of_dead hKey g)]
          exact .refused _ _
  | applyControlled g controls target =>
      rw [Request.run_applyControlled
        (perform_applyControlled g controls target tracer)]
      cases hKey : tracer.qubits.get? target with
      | none =>
          rw [HandleTable.get_of_dead hKey]
          exact .refused _ _
      | some layer =>
          rw [HandleTable.get_of_live hKey]
          cases hControls :
              tracer.qubits.checkLive "apply_controlled"
                controls with
          | error e => exact .refused _ _
          | ok _ =>
              cases hDistinct : checkDistinct controls target with
              | error e => exact .refused _ _
              | ok _ =>
                  exact .controlled g controls target layer hKey
                    ((HandleTable.checkLive_eq_ok_iff _ _ _).mp
                      hControls)
                    hDistinct
  | measure bases targets =>
      cases hSingle :
          singleMeasurement tracer.name bases targets with
      | error e =>
          rw [Request.run_measure (perform_measure_of_shape hSingle)]
          exact .refused _ _
      | ok pair =>
          rcases pair with ⟨basis, target⟩
          cases hKey : tracer.qubits.get? target with
          | none =>
              rw [Request.run_measure
                (perform_measure_of_dead hSingle hKey)]
              exact .refused _ _
          | some layer =>
              rw [Request.run_measure
                (perform_measure_of_live hSingle hKey)]
              exact .measured bases targets basis target layer
                hSingle hKey
  | areEqualResults r₁ r₂ => exact .compared r₁ r₂
  | releaseResult r => exact .resultKept r
  | resultValue r => exact .read r

end Tracer

end QuantumRuntime

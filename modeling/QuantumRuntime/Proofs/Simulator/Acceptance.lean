import QuantumRuntime.Proofs.Simulator.Bookkeeping
import QuantumRuntime.Proofs.Simulator.Controls
import QuantumRuntime.Proofs.Simulator.Objections

/-
  This file proves that the three simulators accept and refuse
  requests by one rule. Each of them makes the same checks in
  the same order, apart from the gates and bases that the
  simulator of bits does not support, and the census of its
  history tells what the checks will find.

  Key definitions include:
    * `Builtin.kind`
    * `Builtin.limits`
    * `Builtin.HasHistory`

  Key theorems include:
    * `FullState.answer_eq_check`
    * `Toffoli.answer_eq_check`
    * `Tracer.answer_eq_check`
    * `Builtin.answer_eq_check`
    * `Builtin.HasHistory.governs`
-/

namespace QuantumRuntime

variable {R : Type} [Scalar R]

------------------------------------------------------------
-- Outcomes
------------------------------------------------------------

section

variable {β : Type} [Backend R β] {b after : β}

/- A request succeeds or fails as its operation does. -/
theorem Request.outcome_releaseQubit
    {q : QubitId}
    {answer : Except BackendError Unit}
    (hPerform :
      (Backend.releaseQubit (R := R) q).perform b =
        (answer, after)) :
    (((releaseQubit q : Request R).run.perform b).1.map
      fun _ => ()) = answer := by
  rw [run_releaseQubit hPerform]
  cases answer <;> rfl

theorem Request.outcome_apply
    {g : Gate R}
    {target : QubitId}
    {answer : Except BackendError Unit}
    (hPerform :
      (Backend.apply g target).perform b = (answer, after)) :
    (((apply g target).run.perform b).1.map fun _ => ()) =
      answer := by
  rw [run_apply hPerform]
  cases answer <;> rfl

theorem Request.outcome_measure
    {bases : List Pauli}
    {targets : List QubitId}
    {answer : Except BackendError ResultId}
    (hPerform :
      (Backend.measure (R := R) bases targets).perform b =
        (answer, after)) :
    (((measure bases targets : Request R).run.perform b).1.map
      fun _ => ()) = answer.map fun _ => () := by
  rw [run_measure hPerform]
  cases answer <;> rfl

end

------------------------------------------------------------
-- The simulator of the full state
------------------------------------------------------------

namespace FullState

/- The simulator of the full state makes no other checks. -/
theorem answer_eq_check
    (sim : FullState R)
    {request : Request R}
    (hUses : request.UsesQubits) :
    ((request.run.perform sim).1.map fun _ => ()) =
      request.check (.unlimited sim.name) sim.qubits := by
  cases request with
  | releaseQubit q =>
      cases hKey : sim.qubits.get? q with
      | some position =>
          rw [Request.outcome_releaseQubit
              (perform_releaseQubit_of_live hKey),
            Request.check_releaseQubit_of_live hKey]
      | none =>
          rw [Request.outcome_releaseQubit
              (perform_releaseQubit_of_dead hKey),
            Request.check_releaseQubit_of_dead hKey]
  | apply g target =>
      have hPerform := perform_apply g target sim
      cases hKey : sim.qubits.get? target with
      | some position =>
          rw [HandleTable.get_of_live hKey] at hPerform
          rw [Request.outcome_apply hPerform,
            Request.check_apply_of_live hKey]
          rfl
      | none =>
          rw [HandleTable.get_of_dead hKey] at hPerform
          rw [Request.outcome_apply hPerform,
            Request.check_apply_of_dead hKey]
  | applyControlled g controls target =>
      simp only [Request.run, Action.perform_map,
        Backend.applyControlled, perform_applyControlled,
        Request.check, HandleTable.checkLive_cons,
        ← map_controlMask]
      cases sim.qubits.get target "apply_controlled" with
      | error e => rfl
      | ok position =>
          cases controlMask sim.qubits controls with
          | error e => rfl
          | ok mask => cases checkDistinct controls target <;> rfl
  | measure bases targets =>
      cases hSingle :
          singleMeasurement sim.name bases targets with
      | error e =>
          rw [Request.outcome_measure
              (perform_measure_of_shape hSingle),
            Request.check_measure_of_shape hSingle]
          rfl
      | ok pair =>
          rcases pair with ⟨basis, target⟩
          cases hKey : sim.qubits.get? target with
          | none =>
              rw [Request.outcome_measure
                  (perform_measure_of_dead hSingle hKey),
                Request.check_measure_of_dead hSingle hKey]
              rfl
          | some position =>
              rcases sim.perform_measureAt position basis with
                ⟨bit, state, hMeasured, -⟩
              rw [Request.outcome_measure
                  (perform_measure_of_live hSingle hKey hMeasured),
                Request.check_measure_of_live hSingle hKey]
              rfl
  | _ => exact hUses.elim

end FullState

------------------------------------------------------------
-- The tracer
------------------------------------------------------------

namespace Tracer

/- The tracer makes no other checks either. -/
theorem answer_eq_check
    (tracer : Tracer R)
    {request : Request R}
    (hUses : request.UsesQubits) :
    ((request.run.perform tracer).1.map fun _ => ()) =
      request.check (.unlimited tracer.name) tracer.qubits := by
  cases request with
  | releaseQubit q =>
      cases hKey : tracer.qubits.get? q with
      | some layer =>
          rw [Request.outcome_releaseQubit
              (perform_releaseQubit_of_live hKey),
            Request.check_releaseQubit_of_live hKey]
      | none =>
          rw [Request.outcome_releaseQubit
              (perform_releaseQubit_of_dead hKey),
            Request.check_releaseQubit_of_dead hKey]
  | apply g target =>
      cases hKey : tracer.qubits.get? target with
      | some layer =>
          rw [Request.outcome_apply (perform_apply_of_live hKey g),
            Request.check_apply_of_live hKey]
          rfl
      | none =>
          rw [Request.outcome_apply (perform_apply_of_dead hKey g),
            Request.check_apply_of_dead hKey]
  | applyControlled g controls target =>
      simp only [Request.run, Action.perform_map,
        Backend.applyControlled, perform_applyControlled,
        Request.check, HandleTable.checkLive_cons]
      cases tracer.qubits.get target "apply_controlled" with
      | error e => rfl
      | ok layer =>
          cases tracer.qubits.checkLive "apply_controlled"
              controls with
          | error e => rfl
          | ok _ => cases checkDistinct controls target <;> rfl
  | measure bases targets =>
      cases hSingle :
          singleMeasurement tracer.name bases targets with
      | error e =>
          rw [Request.outcome_measure
              (perform_measure_of_shape hSingle),
            Request.check_measure_of_shape hSingle]
          rfl
      | ok pair =>
          rcases pair with ⟨basis, target⟩
          cases hKey : tracer.qubits.get? target with
          | none =>
              rw [Request.outcome_measure
                  (perform_measure_of_dead hSingle hKey),
                Request.check_measure_of_dead hSingle hKey]
              rfl
          | some layer =>
              rw [Request.outcome_measure
                  (perform_measure_of_live hSingle hKey),
                Request.check_measure_of_live hSingle hKey]
              rfl
  | _ => exact hUses.elim

end Tracer

------------------------------------------------------------
-- The simulator of bits
------------------------------------------------------------

namespace Toffoli

/- A basis is supported when a bit has an outcome in it. -/
def checkBasis
    (sim : Toffoli R)
    (basis : Pauli) : Except BackendError Unit :=
  if basis.IsTransverse then
    .error (.unsupported sim.name
      s!"measure in the {basis.text} basis")
  else
    .ok ()

/- The gates and bases that the simulator of bits supports. -/
def limits
    (sim : Toffoli R) : Limits R :=
  { name := sim.name
    checkGate := sim.checkGate
    checkBasis := sim.checkBasis }

theorem fit_limits
    (sim : Toffoli R) :
    sim.limits.Fit .toffoli where
  gate operation g := by
    by_cases hSupported : g.IsBitFlip ∨ g.IsDiagonal
    · have hNo : ¬ BuiltinKind.toffoli.RefusesGate g :=
        fun hRefuses =>
          (g.createsSuperposition_iff.mp hRefuses.2) hSupported
      rw [Objection.when, if_neg hNo]
      simpa [limits, checkGate, hSupported] using .accepted ()
    · have hYes : BuiltinKind.toffoli.RefusesGate g :=
        ⟨rfl, g.createsSuperposition_iff.mpr hSupported⟩
      rw [Objection.when, if_pos hYes]
      simpa [limits, checkGate, hSupported] using
        .refused _ _ (.unsupported _ _)
  basis basis := by
    simp only [BuiltinKind.RefusesBasis, true_and]
    exact .ite (.unsupported _ _) ()

/- The simulator of bits checks gates and bases after all else. -/
theorem answer_eq_check
    (sim : Toffoli R)
    {request : Request R}
    (hUses : request.UsesQubits) :
    ((request.run.perform sim).1.map fun _ => ()) =
      request.check sim.limits sim.qubits := by
  cases request with
  | releaseQubit q =>
      cases hKey : sim.qubits.get? q with
      | some bit =>
          rw [Request.outcome_releaseQubit
              (perform_releaseQubit_of_live hKey),
            Request.check_releaseQubit_of_live hKey]
      | none =>
          rw [Request.outcome_releaseQubit
              (perform_releaseQubit_of_dead hKey),
            Request.check_releaseQubit_of_dead hKey]
  | apply g target =>
      cases hKey : sim.qubits.get? target with
      | some bit =>
          have hPerform := perform_apply_of_live hKey g
          rw [Request.check_apply_of_live hKey]
          cases hGate : sim.checkGate "apply" g with
          | ok _ =>
              rw [hGate] at hPerform
              rw [Request.outcome_apply hPerform]
              exact hGate.symm
          | error e =>
              rw [hGate] at hPerform
              rw [Request.outcome_apply hPerform]
              exact hGate.symm
      | none =>
          rw [Request.outcome_apply (perform_apply_of_dead hKey g),
            Request.check_apply_of_dead hKey]
  | applyControlled g controls target =>
      simp only [Request.run, Action.perform_map,
        Backend.applyControlled, perform_applyControlled,
        Request.check, limits, HandleTable.checkLive_cons]
      cases sim.qubits.get target "apply_controlled" with
      | error e => rfl
      | ok bit =>
          cases sim.qubits.checkLive "apply_controlled"
              controls with
          | error e => rfl
          | ok _ =>
              cases checkDistinct controls target with
              | error e => rfl
              | ok _ =>
                  cases sim.checkGate "apply_controlled" g <;> rfl
  | measure bases targets =>
      cases hSingle :
          singleMeasurement sim.name bases targets with
      | error e =>
          rw [Request.outcome_measure
              (perform_measure_of_shape hSingle),
            Request.check_measure_of_shape hSingle]
          rfl
      | ok pair =>
          rcases pair with ⟨basis, target⟩
          cases hKey : sim.qubits.get? target with
          | none =>
              rw [Request.outcome_measure
                  (perform_measure_of_dead hSingle hKey),
                Request.check_measure_of_dead hSingle hKey]
              rfl
          | some bit =>
              rw [Request.outcome_measure
                  (perform_measure_of_live hSingle hKey),
                Request.check_measure_of_live hSingle hKey]
              cases basis <;> rfl
  | _ => exact hUses.elim

end Toffoli

------------------------------------------------------------
-- Simulators of any kind
------------------------------------------------------------

namespace Builtin

/- The kind of a built-in backend. -/
def kind : Builtin R → BuiltinKind
  | fullState _ => .fullState
  | toffoli _ => .toffoli
  | tracer _ => .tracer
  | stub _ => .stub

/- The limits of a simulator. The stub has none worth the name. -/
def limits : Builtin R → Limits R
  | fullState sim => .unlimited sim.name
  | toffoli sim => sim.limits
  | tracer t => .unlimited t.name
  | stub s => .unlimited s.name

theorem fit_limits
    (b : Builtin R) :
    b.limits.Fit b.kind := by
  cases b with
  | fullState sim =>
      exact Limits.fit_unlimited BuiltinKind.noConfusion sim.name
  | toffoli sim => exact sim.fit_limits
  | tracer t =>
      exact Limits.fit_unlimited BuiltinKind.noConfusion t.name
  | stub s =>
      exact Limits.fit_unlimited BuiltinKind.noConfusion s.name

/- What a simulator answers is what the checks say. -/
theorem answer_eq_check
    {b : Builtin R}
    (hSimulator : b.kind ≠ .stub)
    {request : Request R}
    (hUses : request.UsesQubits) :
    ((request.run.perform b).1.map fun _ => ()) =
      request.check b.limits (bookkeeping.holdings b).qubits := by
  cases b with
  | fullState sim =>
      rw [fullState_morphism.run_eq, sim.answer_eq_check hUses]
      exact (request.check_of_shape_eq sim.qubits.shape_shape _).symm
  | toffoli sim =>
      rw [toffoli_morphism.run_eq, sim.answer_eq_check hUses]
      exact (request.check_of_shape_eq sim.qubits.shape_shape _).symm
  | tracer t =>
      rw [tracer_morphism.run_eq, t.answer_eq_check hUses]
      exact (request.check_of_shape_eq t.qubits.shape_shape _).symm
  | stub s => exact absurd rfl hSimulator

/- So a request that fails a check is refused as the check says. -/
theorem answer_of_check
    {b : Builtin R}
    (hSimulator : b.kind ≠ .stub)
    {request : Request R}
    {e : BackendError}
    (hCheck :
      request.check b.limits (bookkeeping.holdings b).qubits =
        .error e)
    (hUses : request.UsesQubits) :
    (request.run.perform b).1 = .error e := by
  have hAnswer := answer_eq_check hSimulator hUses
  rw [hCheck] at hAnswer
  cases hOutcome : (request.run.perform b).1 with
  | ok reply =>
      rw [hOutcome] at hAnswer
      cases hAnswer
  | error e' =>
      rw [hOutcome] at hAnswer
      cases hAnswer
      rfl

/- A request does not turn a backend into another kind. -/
@[simp] theorem kind_run
    (request : Request R)
    (b : Builtin R) :
    (request.run.perform b).2.kind = b.kind := by
  cases b with
  | fullState sim => rw [fullState_morphism.run_eq]; rfl
  | toffoli sim => rw [toffoli_morphism.run_eq]; rfl
  | tracer t => rw [tracer_morphism.run_eq]; rfl
  | stub s => rw [stub_morphism.run_eq]; rfl

/- A run does not turn a backend into another kind. -/
@[simp] theorem kind_runRequests
    (requests : List (Request R))
    (b : Builtin R) :
    (runRequests b requests).2.kind = b.kind := by
  induction requests generalizing b with
  | nil => rfl
  | cons request rest ih => simp [ih]

/-
  The states that a simulator can be in, with all exchanges that
  have led to them. Its metrics may be taken at any time.
-/
inductive HasHistory : Builtin R → List (Exchange R) → Prop
  | fullState
      (sim : FullState R)
      (hFresh : sim.Fresh) :
      HasHistory (.fullState sim) []
  | toffoli
      (sim : Toffoli R)
      (hFresh : sim.Fresh) :
      HasHistory (.toffoli sim) []
  | tracer
      (name : String) :
      HasHistory
        (.tracer { (Tracer.start : Tracer R) with name := name }) []
  | request
      (request : Request R)
      (b : Builtin R)
      (history : List (Exchange R))
      (hHistory : HasHistory b history) :
      HasHistory (request.run.perform b).2
        (history ++ [(request, (request.run.perform b).1)])
  | takeMetrics
      (b : Builtin R)
      (history : List (Exchange R))
      (hHistory : HasHistory b history) :
      HasHistory ((Observable.takeMetrics (R := R)).perform b).2
        history

namespace HasHistory

variable {b : Builtin R} {history : List (Exchange R)}

/- A state with a history is a state that can be reached. -/
theorem reachable
    (hHistory : b.HasHistory history) :
    b.Reachable := by
  induction hHistory with
  | fullState sim hFresh => exact .fullState sim hFresh
  | toffoli sim hFresh => exact .toffoli sim hFresh
  | tracer name => exact .tracer name
  | request request b _ _ ih => exact .request request b ih
  | takeMetrics b _ _ ih => exact .takeMetrics b ih

/- A run adds its exchanges to the history. -/
theorem run
    (hHistory : b.HasHistory history)
    (requests : List (Request R)) :
    (runRequests b requests).2.HasHistory
      (history ++ requests.zip (runRequests b requests).1) := by
  induction requests generalizing b history with
  | nil => simpa using hHistory
  | cons request rest ih =>
      have hNext := ih (hHistory.request request)
      rwa [List.append_assoc, List.singleton_append] at hNext

theorem kind_ne_stub
    (hHistory : b.HasHistory history) :
    b.kind ≠ .stub := by
  induction hHistory with
  | fullState => exact BuiltinKind.noConfusion
  | toffoli => exact BuiltinKind.noConfusion
  | tracer => exact BuiltinKind.noConfusion
  | request request b _ _ ih =>
      rw [kind_run]
      exact ih
  | takeMetrics b _ _ ih => cases b <;> exact ih

/- The census of a history lists what the tables hold. -/
theorem agrees
    (hHistory : b.HasHistory history) :
    (Census.ofHistory history).Agrees
      (bookkeeping.holdings b).qubits := by
  induction hHistory with
  | fullState sim hFresh =>
      rcases hFresh.untouched.qubits_eq with ⟨recycle, hQubits⟩
      refine (Census.agrees_shape_iff _ _).mpr ?_
      rw [hQubits]
      exact Census.agrees_start recycle
  | toffoli sim hFresh =>
      rcases hFresh.untouched.qubits_eq with ⟨recycle, hQubits⟩
      refine (Census.agrees_shape_iff _ _).mpr ?_
      rw [hQubits]
      exact Census.agrees_start recycle
  | tracer name =>
      refine (Census.agrees_shape_iff _ _).mpr ?_
      exact Census.agrees_start false
  | request request b history hHistory ih =>
      have hSound := hHistory.reachable.sound
      rw [Census.ofHistory_concat]
      exact ih.step (bookkeeping.coherent b hSound)
        (bookkeeping.step request b hSound)
  | takeMetrics b _ _ ih => cases b <;> exact ih

/-
  In every state that a simulator can get into, the rule decides
  whether it accepts a request that names qubits and how it
  refuses it.
-/
theorem governs
    (hHistory : b.HasHistory history)
    {request : Request R}
    (hUses : request.UsesQubits) :
    Objection.Governs request.operation
      ((Census.ofHistory history).objection b.kind request)
      (request.run.perform b).1 := by
  rw [← Objection.Governs.map_iff fun _ => (),
    answer_eq_check hHistory.kind_ne_stub hUses]
  exact request.governs_check hHistory.agrees b.fit_limits hUses

end HasHistory

end Builtin

end QuantumRuntime

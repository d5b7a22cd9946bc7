import QuantumRuntime.Proofs.Simulator.BitEffects
import QuantumRuntime.Proofs.Simulator.Fresh
import QuantumRuntime.Proofs.Simulator.RenamedArguments

/-
  This file proves that two simulators of bits, which differ in
  nothing but the name and the table of qubits, answer a client
  alike and stay so, if the tables are aligned under the names
  that the client uses.

  Key definitions include:
    * `Toffoli.SameBesidesQubits`
    * `Toffoli.Alike`

  Key theorems include:
    * `Toffoli.askedAlike`
    * `Toffoli.Fresh.alike_start`
-/

namespace QuantumRuntime

attribute [ext] Toffoli

------------------------------------------------------------
-- Simulators with other handles
------------------------------------------------------------

namespace Toffoli

variable {R : Type}

/- The same simulator with another name and other handles. -/
def relabeled
    (name : String)
    (qubits : HandleTable QubitId Bool)
    (sim : Toffoli R) : Toffoli R :=
  { sim with
    name := name
    qubits := qubits }

/- Two simulators differ in the name and the table of qubits only. -/
def SameBesidesQubits
    (sim sim' : Toffoli R) : Prop :=
  sim' = sim.relabeled sim'.name sim'.qubits

namespace SameBesidesQubits

variable {sim sim' : Toffoli R}

theorem mode_eq
    (hSame : sim.SameBesidesQubits sim') :
    sim'.mode = sim.mode := by
  rw [hSame]
  rfl

theorem results_eq
    (hSame : sim.SameBesidesQubits sim') :
    sim'.results = sim.results := by
  rw [hSame]
  rfl

theorem withQubits
    (hSame : sim.SameBesidesQubits sim')
    (qubits qubits' : HandleTable QubitId Bool) :
    ({ sim with qubits := qubits } : Toffoli R).SameBesidesQubits
      { sim' with qubits := qubits' } := by
  unfold SameBesidesQubits at *
  rw [hSame]
  rfl

theorem withResults
    (hSame : sim.SameBesidesQubits sim')
    (results : HandleTable ResultId Bool) :
    ({ sim with results := results } : Toffoli R).SameBesidesQubits
      { sim' with results := results } := by
  unfold SameBesidesQubits at *
  rw [hSame]
  rfl

end SameBesidesQubits

/- Controls are one under names or under other names. -/
theorem controlsSet_map_iff
    {names controls : List QubitId}
    {key key' : QubitId → QubitId}
    {table table' : HandleTable QubitId Bool}
    (hAligned :
      HandleTable.Aligned names key key' table table')
    (hControls : ∀ c ∈ controls, c ∈ names) :
    ControlsSet table' (controls.map key') ↔
      ControlsSet table (controls.map key) := by
  unfold ControlsSet
  rw [List.forall_mem_map, List.forall_mem_map]
  refine forall₂_congr fun c hMem => ?_
  rw [hAligned.get?_eq c (hControls c hMem)]

------------------------------------------------------------
-- Requests under names
------------------------------------------------------------

section

variable [Scalar R]
variable {named named' : Named (Toffoli R)}

/- Simulators alike under the names of a client. -/
abbrev Alike
    (named named' : Named (Toffoli R)) : Prop :=
  Named.Alike Toffoli.qubits SameBesidesQubits named named'

/- They answer a request alike and stay alike. -/
abbrev AskedAlike
    (request : Request R)
    (named named' : Named (Toffoli R)) : Prop :=
  Named.AskedAlike Toffoli.qubits SameBesidesQubits request
    named named'

/- A gate is supported by both, or refused by each in its name. -/
theorem checkGate_cases
    (sim sim' : Toffoli R)
    (operation : String)
    (g : Gate R) :
    (sim.checkGate operation g = .ok () ∧
      sim'.checkGate operation g = .ok ()) ∨
      ∃ e e',
        sim.checkGate operation g = .error e ∧
          sim'.checkGate operation g = .error e' ∧
          e'.blurred = e.blurred := by
  unfold checkGate
  split
  · exact .inl ⟨rfl, rfl⟩
  · exact .inr ⟨_, _, rfl, rfl, rfl⟩

omit [Scalar R] in
/- Turning the qubits of one name keeps simulators alike. -/
theorem Alike.turned
    (hAlike : Alike named named')
    {target : QubitId}
    (hName : target ∈ named.census.live)
    (g : Gate R)
    (bit : Bool) :
    let after := named.backend.turned g (named.handle target) bit
    let after' := named'.backend.turned g (named'.handle target) bit
    HandleTable.Aligned named.census.live named.handle
        named'.handle after.qubits after'.qubits ∧
      after.SameBesidesQubits after' := by
  unfold Toffoli.turned
  split
  · exact ⟨hAlike.aligned.overwrite hName (!bit),
      hAlike.same.withQubits _ _⟩
  · exact ⟨hAlike.aligned, hAlike.same⟩

theorem askedAlike_releaseQubit
    (hAlike : Alike named named')
    {q : QubitId}
    (hName : q ∈ named.census.live) :
    AskedAlike (.releaseQubit q) named named' := by
  rcases hAlike.aligned.exists_get? hName with ⟨bit, hOwn, hOther⟩
  exact hAlike.done
    (Request.run_releaseQubit (perform_releaseQubit_of_live hOwn))
    (Request.run_releaseQubit (perform_releaseQubit_of_live hOther))
    (hAlike.aligned.without hName)
    (hAlike.same.withQubits _ _)

theorem askedAlike_apply
    (hAlike : Alike named named')
    (g : Gate R)
    {target : QubitId}
    (hName : target ∈ named.census.live) :
    AskedAlike (.apply g target) named named' := by
  rcases hAlike.aligned.exists_get? hName with ⟨bit, hOwn, hOther⟩
  rcases hAlike.turned hName g bit with ⟨hAligned, hSame⟩
  have hRun := perform_apply_of_live hOwn g
  have hRun' := perform_apply_of_live hOther g
  rcases checkGate_cases named.backend named'.backend "apply" g with
    ⟨hPass, hPass'⟩ | ⟨e, e', hRefused, hRefused', hBlurred⟩
  · rw [hPass] at hRun
    rw [hPass'] at hRun'
    exact hAlike.done
      (Request.run_apply hRun) (Request.run_apply hRun')
      hAligned hSame
  · rw [hRefused] at hRun
    rw [hRefused'] at hRun'
    exact hAlike.refused hBlurred (Request.run_apply hRun)
      (Request.run_apply hRun')

theorem askedAlike_applyControlled
    (hAlike : Alike named named')
    (g : Gate R)
    {controls : List QubitId}
    {target : QubitId}
    (hTarget : target ∈ named.census.live)
    (hControls : ∀ c ∈ controls, c ∈ named.census.live) :
    AskedAlike (.applyControlled g controls target)
      named named' := by
  rcases hAlike.aligned.exists_get? hTarget with
    ⟨bit, hOwn, hOther⟩
  rcases hAlike.turned hTarget g bit with ⟨hAligned, hSame⟩
  have hSet := controlsSet_map_iff hAlike.aligned hControls
  have hRun :=
    perform_applyControlled g (controls.map named.handle)
      (named.handle target) named.backend
  have hRun' :=
    perform_applyControlled g (controls.map named'.handle)
      (named'.handle target) named'.backend
  rw [HandleTable.get_of_live hOwn,
    hAlike.aligned.own.checkLive_map hControls] at hRun
  rw [HandleTable.get_of_live hOther,
    hAlike.aligned.other.checkLive_map hControls] at hRun'
  rcases checkDistinct_cases hAlike.aligned hTarget hControls with
    ⟨hDistinct, hDistinct'⟩ | ⟨e, e', hRefused, hRefused', hBlurred⟩
  · rw [hDistinct] at hRun
    rw [hDistinct'] at hRun'
    rcases checkGate_cases named.backend named'.backend
        "apply_controlled" g with
      ⟨hPass, hPass'⟩ | ⟨e, e', hRefused, hRefused', hBlurred⟩
    · rw [hPass] at hRun
      rw [hPass'] at hRun'
      by_cases hAll :
          ControlsSet named.backend.qubits
            (controls.map named.handle)
      · simp only [if_pos hAll] at hRun
        simp only [if_pos (hSet.mpr hAll)] at hRun'
        exact hAlike.done
          (Request.run_applyControlled hRun)
          (Request.run_applyControlled hRun') hAligned hSame
      · simp only [if_neg hAll] at hRun
        simp only [if_neg (mt hSet.mp hAll)] at hRun'
        exact hAlike.done
          (Request.run_applyControlled hRun)
          (Request.run_applyControlled hRun') hAlike.aligned
          hAlike.same
    · rw [hRefused] at hRun
      rw [hRefused'] at hRun'
      exact hAlike.refused hBlurred
        (Request.run_applyControlled hRun)
        (Request.run_applyControlled hRun')
  · rw [hRefused] at hRun
    rw [hRefused'] at hRun'
    exact hAlike.refused hBlurred (Request.run_applyControlled hRun)
      (Request.run_applyControlled hRun')

omit [Scalar R] in
/- Handing out an outcome does not look at the handles. -/
theorem handOut_relabeled
    (name : String)
    (qubits : HandleTable QubitId Bool)
    (outcome : Bool)
    (sim : Toffoli R) :
    (sim.relabeled name qubits).handOut outcome =
      ((sim.handOut outcome).1,
        (sim.handOut outcome).2.relabeled name qubits) := by
  unfold handOut relabeled
  dsimp only
  split <;> rfl

omit [Scalar R] in
theorem qubits_handOut
    (outcome : Bool)
    (sim : Toffoli R) :
    (sim.handOut outcome).2.qubits = sim.qubits := by
  unfold handOut
  split <;> rfl

omit [Scalar R] in
/- Simulators alike hand out an outcome in the same way. -/
theorem SameBesidesQubits.handOut
    {sim sim' : Toffoli R}
    (hSame : sim.SameBesidesQubits sim')
    (outcome : Bool) :
    (sim'.handOut outcome).1 = (sim.handOut outcome).1 ∧
      (sim.handOut outcome).2.SameBesidesQubits
        (sim'.handOut outcome).2 := by
  have hOther :=
    handOut_relabeled sim'.name sim'.qubits outcome sim
  rw [← hSame] at hOther
  unfold SameBesidesQubits
  rw [hOther]
  exact ⟨rfl, rfl⟩

theorem askedAlike_measure
    (hAlike : Alike named named')
    (bases : List Pauli)
    {targets : List QubitId}
    (hTargets : ∀ q ∈ targets, q ∈ named.census.live) :
    AskedAlike (.measure bases targets) named named' := by
  rcases singleMeasurement_map_cases named.backend.name
      named'.backend.name bases targets named.handle
      named'.handle with
    ⟨basis, target, hMem, hSingle, hSingle'⟩ |
      ⟨e, e', hSingle, hSingle', hBlurred⟩
  · rcases hAlike.aligned.exists_get? (hTargets target hMem) with
      ⟨bit, hOwn, hOther⟩
    have hRun := perform_measure_of_live hSingle hOwn
    have hRun' := perform_measure_of_live hSingle' hOther
    cases hOutcome : outcomeIn bit basis with
    | none =>
        rw [hOutcome] at hRun hRun'
        let reason : String := s!"measure in the {basis.text} basis"
        have hBlurred :
            (BackendError.unsupported named'.backend.name
              reason).blurred =
              (BackendError.unsupported named.backend.name
                reason).blurred :=
          rfl
        exact hAlike.refused hBlurred (Request.run_measure hRun)
          (Request.run_measure hRun')
    | some outcome =>
        rw [hOutcome] at hRun hRun'
        rcases hAlike.same.handOut outcome with
          ⟨hResult, hSame⟩
        dsimp only at hRun'
        rw [hResult] at hRun'
        refine hAlike.measured (named.backend.handOut outcome).1
          (Request.run_measure hRun) (Request.run_measure hRun') ?_
          hSame
        rw [qubits_handOut, qubits_handOut]
        exact hAlike.aligned
  · exact hAlike.refused hBlurred
      (Request.run_measure (perform_measure_of_shape hSingle))
      (Request.run_measure (perform_measure_of_shape hSingle'))

theorem askedAlike_releaseResult
    (hAlike : Alike named named')
    (r : ResultId) :
    AskedAlike (.releaseResult r) named named' := by
  have hMode :
      r.IsConstant ∨ named'.backend.mode = .canonical ↔
        r.IsConstant ∨ named.backend.mode = .canonical := by
    rw [hAlike.same.mode_eq]
  have hRun := perform_releaseResult r named.backend
  have hRun' := perform_releaseResult r named'.backend
  rw [if_congr hMode rfl rfl, hAlike.same.results_eq] at hRun'
  by_cases hKept :
      r.IsConstant ∨ named.backend.mode = .canonical
  · rw [if_pos hKept] at hRun hRun'
    exact hAlike.done
      (Request.run_releaseResult hRun)
      (Request.run_releaseResult hRun') hAlike.aligned
      hAlike.same
  · rw [if_neg hKept] at hRun hRun'
    rcases hReleased :
        named.backend.results.release r "release_result" with
      e | ⟨bit, results⟩
    · rw [hReleased] at hRun hRun'
      exact hAlike.refused rfl (Request.run_releaseResult hRun)
        (Request.run_releaseResult hRun')
    · rw [hReleased] at hRun hRun'
      exact hAlike.done
        (Request.run_releaseResult hRun)
        (Request.run_releaseResult hRun') hAlike.aligned
        (hAlike.same.withResults results)

/- A request for live qubits keeps simulators alike. -/
theorem askedAlike
    (request : Request R)
    (named named' : Named (Toffoli R))
    (hAlike : Alike named named')
    (hLive : ∀ q ∈ request.qubits, q ∈ named.census.live) :
    AskedAlike request named named' := by
  cases request with
  | allocateQubit =>
      have hRun := perform_allocateQubit named.backend
      have hRun' := perform_allocateQubit named'.backend
      exact hAlike.allocated false (Request.run_allocateQubit hRun)
        (Request.run_allocateQubit hRun') rfl rfl
        (hAlike.same.withQubits _ _)
  | releaseQubit q =>
      exact askedAlike_releaseQubit hAlike
        (hLive q List.mem_cons_self)
  | apply g target =>
      exact askedAlike_apply hAlike g
        (hLive target List.mem_cons_self)
  | applyControlled g controls target =>
      exact askedAlike_applyControlled hAlike g
        (hLive target List.mem_cons_self)
        fun c hMem => hLive c (List.mem_cons_of_mem target hMem)
  | measure bases targets =>
      exact askedAlike_measure hAlike bases hLive
  | areEqualResults r₁ r₂ =>
      refine hAlike.queried trivial _
        (Action.perform_map _ _ _) ?_
      rw [hAlike.same]
      exact Action.perform_map _ _ _
  | releaseResult r => exact askedAlike_releaseResult hAlike r
  | resultValue r =>
      refine hAlike.queried trivial _
        (Action.perform_map _ _ _) ?_
      rw [hAlike.same]
      exact Action.perform_map _ _ _

end

------------------------------------------------------------
-- Fresh simulators
------------------------------------------------------------

/- Fresh simulators of one result mode start alike. -/
theorem Fresh.alike_start
    {sim sim' : Toffoli R}
    (hFresh : sim.Fresh)
    (hFresh' : sim'.Fresh)
    (hMode : sim'.mode = sim.mode) :
    Alike (Named.start sim) (Named.start sim') := by
  refine Named.alike_start hFresh.untouched.qubits_eq
    hFresh'.untouched.qubits_eq ?_
  unfold SameBesidesQubits
  ext1
  · rfl
  · rfl
  · exact hFresh'.untouched.results_eq.trans
      hFresh.untouched.results_eq.symm
  · exact hMode

end Toffoli

end QuantumRuntime

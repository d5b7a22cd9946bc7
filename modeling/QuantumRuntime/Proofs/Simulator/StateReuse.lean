import QuantumRuntime.Proofs.Simulator.Effects
import QuantumRuntime.Proofs.Simulator.Fresh
import QuantumRuntime.Proofs.Simulator.RenamedArguments

/-
  This file proves that two simulators of the full state, which
  differ in nothing but the name and the table of qubits, answer
  a client alike and stay so, if the tables are aligned under
  the names that the client uses.

  Key definitions include:
    * `FullState.SameBesidesQubits`
    * `FullState.Alike`

  Key theorems include:
    * `FullState.askedAlike`
    * `FullState.Fresh.alike_start`
-/

namespace QuantumRuntime

attribute [ext] FullState

------------------------------------------------------------
-- Simulators with other handles
------------------------------------------------------------

namespace FullState

variable {R : Type}

/- The same simulator with another name and other handles. -/
def relabeled
    (name : String)
    (qubits : HandleTable QubitId Nat)
    (sim : FullState R) : FullState R :=
  { sim with
    name := name
    qubits := qubits }

/- Two simulators differ in the name and the table of qubits only. -/
def SameBesidesQubits
    (sim sim' : FullState R) : Prop :=
  sim' = sim.relabeled sim'.name sim'.qubits

namespace SameBesidesQubits

variable {sim sim' : FullState R}

theorem state_eq
    (hSame : sim.SameBesidesQubits sim') :
    sim'.state = sim.state := by
  rw [hSame]
  rfl

theorem drawn_eq
    (hSame : sim.SameBesidesQubits sim') :
    sim'.drawn = sim.drawn := by
  rw [hSame]
  rfl

theorem maxQubits_eq
    (hSame : sim.SameBesidesQubits sim') :
    sim'.maxQubits = sim.maxQubits := by
  rw [hSame]
  rfl

theorem results_eq
    (hSame : sim.SameBesidesQubits sim') :
    sim'.results = sim.results := by
  rw [hSame]
  rfl

theorem withResults
    (hSame : sim.SameBesidesQubits sim')
    (results : HandleTable ResultId Bool) :
    ({ sim with results := results } :
      FullState R).SameBesidesQubits
        { sim' with results := results } := by
  unfold SameBesidesQubits at *
  rw [hSame]
  rfl

variable [Scalar R]

theorem allocated
    (hSame : sim.SameBesidesQubits sim') :
    sim.allocated.SameBesidesQubits sim'.allocated := by
  unfold SameBesidesQubits at *
  rw [hSame]
  rfl

theorem released
    (hSame : sim.SameBesidesQubits sim')
    (q q' : QubitId)
    (position : Nat) :
    (sim.released q position).SameBesidesQubits
      (sim'.released q' position) := by
  unfold SameBesidesQubits at *
  rw [hSame]
  rfl

theorem applied
    (hSame : sim.SameBesidesQubits sim')
    (g : Gate R)
    (mask position : Nat) :
    (sim.applied g mask position).SameBesidesQubits
      (sim'.applied g mask position) := by
  unfold SameBesidesQubits at *
  rw [hSame]
  rfl

end SameBesidesQubits

variable [Scalar R]

/- Measuring at a position does not look at the handles. -/
theorem perform_measureAt_relabeled
    (position : Nat)
    (basis : Pauli)
    (name : String)
    (qubits : HandleTable QubitId Nat)
    (sim : FullState R) :
    (measureAt position basis).perform (sim.relabeled name qubits) =
      (((measureAt position basis).perform sim).1,
        ((measureAt position basis).perform sim).2.relabeled name
          qubits) := by
  cases basis with
  | i => rfl
  | z => rfl
  | x =>
      simp only [measureAt, Action.perform_bind,
        Action.perform_pure, perform_applyAt, perform_measureBit]
      rfl
  | y =>
      simp only [measureAt, Action.perform_bind,
        Action.perform_pure, perform_applyAt, perform_measureBit]
      rfl

theorem SameBesidesQubits.measureAt
    {sim sim' : FullState R}
    (hSame : sim.SameBesidesQubits sim')
    (position : Nat)
    (basis : Pauli) :
    ∃ bit after after',
      (FullState.measureAt position basis).perform sim =
          (.ok bit, after) ∧
        (FullState.measureAt position basis).perform sim' =
          (.ok bit, after') ∧
        after.qubits = sim.qubits ∧
        after'.qubits = sim'.qubits ∧
        after.SameBesidesQubits after' := by
  rcases sim.perform_measureAt position basis with
    ⟨bit, state, hMeasured, -⟩
  have hMeasured' :=
    perform_measureAt_relabeled position basis sim'.name
      sim'.qubits sim
  rw [← hSame, hMeasured] at hMeasured'
  exact ⟨bit, _, _, hMeasured, hMeasured', rfl, rfl, rfl⟩

------------------------------------------------------------
-- Requests under names
------------------------------------------------------------

section

variable {named named' : Named (FullState R)}

/- Simulators alike under the names of a client. -/
abbrev Alike
    (named named' : Named (FullState R)) : Prop :=
  Named.Alike FullState.qubits SameBesidesQubits named named'

/- They answer a request alike and stay alike. -/
abbrev AskedAlike
    (request : Request R)
    (named named' : Named (FullState R)) : Prop :=
  Named.AskedAlike FullState.qubits SameBesidesQubits request
    named named'

theorem askedAlike_allocateQubit
    (hAlike : Alike named named') :
    AskedAlike .allocateQubit named named' := by
  have hCount := hAlike.aligned.liveCount_eq
  have hLimit := hAlike.same.maxQubits_eq
  have hState := hAlike.same.state_eq
  by_cases hRoom :
      named.backend.qubits.liveCount < named.backend.maxQubits
  · have hRoom' :
        named'.backend.qubits.liveCount <
          named'.backend.maxQubits := by
      rwa [hCount, hLimit]
    have hRun := perform_allocateQubit_of_room hRoom
    have hRun' := perform_allocateQubit_of_room hRoom'
    have hQubits' :
        named'.backend.allocated.qubits =
          (named'.backend.qubits.insert
            named.backend.state.qubitCount : QubitId × _).2 := by
      rw [allocated, hState]
    rw [nextQubit, hState] at hRun'
    exact hAlike.allocated named.backend.state.qubitCount
      (Request.run_allocateQubit hRun)
      (Request.run_allocateQubit hRun') rfl hQubits'
      hAlike.same.allocated
  · have hFull := Nat.le_of_not_lt hRoom
    have hFull' :
        named'.backend.maxQubits ≤
          named'.backend.qubits.liveCount := by
      rwa [hCount, hLimit]
    have hRun := perform_allocateQubit_of_full hFull
    have hRun' := perform_allocateQubit_of_full hFull'
    rw [hLimit] at hRun'
    let reason : String :=
      s!"allocate_qubit beyond {named.backend.maxQubits} live qubits"
    have hBlurred :
        (BackendError.unsupported named'.backend.name
          reason).blurred =
          (BackendError.unsupported named.backend.name
            reason).blurred :=
      rfl
    exact hAlike.refused hBlurred (Request.run_allocateQubit hRun)
      (Request.run_allocateQubit hRun')

theorem askedAlike_releaseQubit
    (hAlike : Alike named named')
    {q : QubitId}
    (hName : q ∈ named.census.live) :
    AskedAlike (.releaseQubit q) named named' := by
  rcases hAlike.aligned.exists_get? hName with
    ⟨position, hOwn, hOther⟩
  exact hAlike.done
    (Request.run_releaseQubit (perform_releaseQubit_of_live hOwn))
    (Request.run_releaseQubit (perform_releaseQubit_of_live hOther))
    ((hAlike.aligned.without hName).mapLive (lowerAbove position))
    (hAlike.same.released (named.handle q) (named'.handle q)
      position)

theorem askedAlike_apply
    (hAlike : Alike named named')
    (g : Gate R)
    {target : QubitId}
    (hName : target ∈ named.census.live) :
    AskedAlike (.apply g target) named named' := by
  rcases hAlike.aligned.exists_get? hName with
    ⟨position, hOwn, hOther⟩
  have hRun := perform_apply g (named.handle target) named.backend
  have hRun' := perform_apply g (named'.handle target) named'.backend
  rw [HandleTable.get_of_live hOwn] at hRun
  rw [HandleTable.get_of_live hOther] at hRun'
  exact hAlike.done (Request.run_apply hRun)
    (Request.run_apply hRun') hAlike.aligned
    (hAlike.same.applied g 0 position)

theorem askedAlike_applyControlled
    (hAlike : Alike named named')
    (g : Gate R)
    {controls : List QubitId}
    {target : QubitId}
    (hTarget : target ∈ named.census.live)
    (hControls : ∀ c ∈ controls, c ∈ named.census.live) :
    AskedAlike (.applyControlled g controls target)
      named named' := by
  rcases hAlike.aligned.exists_get? hTarget with
    ⟨position, hOwn, hOther⟩
  rcases hAlike.aligned.foldlM_get_eq hControls "apply_controlled"
      (fun mask position => mask ||| 1 <<< position) 0 with
    ⟨mask, hMask, hMask'⟩
  have hMaskOwn :
      controlMask named.backend.qubits
        (controls.map named.handle) = .ok mask := hMask
  have hMaskOther :
      controlMask named'.backend.qubits
        (controls.map named'.handle) = .ok mask := hMask'
  have hRun :=
    perform_applyControlled g (controls.map named.handle)
      (named.handle target) named.backend
  have hRun' :=
    perform_applyControlled g (controls.map named'.handle)
      (named'.handle target) named'.backend
  rw [HandleTable.get_of_live hOwn, hMaskOwn] at hRun
  rw [HandleTable.get_of_live hOther, hMaskOther] at hRun'
  rcases checkDistinct_cases hAlike.aligned hTarget hControls with
    ⟨hDistinct, hDistinct'⟩ | ⟨e, e', hRefused, hRefused', hBlurred⟩
  · rw [hDistinct] at hRun
    rw [hDistinct'] at hRun'
    exact hAlike.done (Request.run_applyControlled hRun)
      (Request.run_applyControlled hRun') hAlike.aligned
      (hAlike.same.applied g mask position)
  · rw [hRefused] at hRun
    rw [hRefused'] at hRun'
    exact hAlike.refused hBlurred (Request.run_applyControlled hRun)
      (Request.run_applyControlled hRun')

theorem askedAlike_measure
    (hAlike : Alike named named')
    (bases : List Pauli)
    {targets : List QubitId}
    (hTargets : ∀ q ∈ targets, q ∈ named.census.live) :
    AskedAlike (.measure bases targets) named named' := by
  rcases singleMeasurement_map_cases named.backend.name
      named'.backend.name bases targets named.handle
      named'.handle with
    ⟨basis, target, hMem, hSingle, hSingle'⟩ |
      ⟨e, e', hSingle, hSingle', hBlurred⟩
  · rcases hAlike.aligned.exists_get? (hTargets target hMem) with
      ⟨position, hOwn, hOther⟩
    rcases hAlike.same.measureAt position basis with
      ⟨bit, after, after', hMeasured, hMeasured', hQubits,
        hQubits', hSame⟩
    have hRun := perform_measure_of_live hSingle hOwn hMeasured
    have hRun' := perform_measure_of_live hSingle' hOther hMeasured'
    rw [hSame.results_eq] at hRun'
    refine hAlike.measured (after.results.insert bit).1
      (Request.run_measure hRun) (Request.run_measure hRun') ?_
      (hSame.withResults _)
    dsimp only
    rw [hQubits, hQubits']
    exact hAlike.aligned
  · exact hAlike.refused hBlurred
      (Request.run_measure (perform_measure_of_shape hSingle))
      (Request.run_measure (perform_measure_of_shape hSingle'))

theorem askedAlike_releaseResult
    (hAlike : Alike named named')
    (r : ResultId) :
    AskedAlike (.releaseResult r) named named' := by
  have hResults := hAlike.same.results_eq
  have hRun := perform_releaseResult r named.backend
  have hRun' := perform_releaseResult r named'.backend
  rw [hResults] at hRun'
  by_cases hConstant : r.IsConstant
  · rw [if_pos hConstant] at hRun hRun'
    exact hAlike.done (Request.run_releaseResult hRun)
      (Request.run_releaseResult hRun') hAlike.aligned hAlike.same
  · rw [if_neg hConstant] at hRun hRun'
    rcases hReleased :
        named.backend.results.release r "release_result" with
      e | ⟨bit, results⟩
    · rw [hReleased] at hRun hRun'
      exact hAlike.refused rfl (Request.run_releaseResult hRun)
        (Request.run_releaseResult hRun')
    · rw [hReleased] at hRun hRun'
      exact hAlike.done (Request.run_releaseResult hRun)
        (Request.run_releaseResult hRun') hAlike.aligned
        (hAlike.same.withResults results)

/- A request for live qubits keeps simulators alike. -/
theorem askedAlike
    (request : Request R)
    (named named' : Named (FullState R))
    (hAlike : Alike named named')
    (hLive : ∀ q ∈ request.qubits, q ∈ named.census.live) :
    AskedAlike request named named' := by
  cases request with
  | allocateQubit => exact askedAlike_allocateQubit hAlike
  | releaseQubit q =>
      exact askedAlike_releaseQubit hAlike
        (hLive q List.mem_cons_self)
  | apply g target =>
      exact askedAlike_apply hAlike g
        (hLive target List.mem_cons_self)
  | applyControlled g controls target =>
      exact askedAlike_applyControlled hAlike g
        (hLive target List.mem_cons_self)
        fun c hMem => hLive c (List.mem_cons_of_mem target hMem)
  | measure bases targets =>
      exact askedAlike_measure hAlike bases hLive
  | areEqualResults r₁ r₂ =>
      refine hAlike.queried trivial _
        (Action.perform_map _ _ _) ?_
      rw [hAlike.same]
      exact Action.perform_map _ _ _
  | releaseResult r => exact askedAlike_releaseResult hAlike r
  | resultValue r =>
      refine hAlike.queried trivial _
        (Action.perform_map _ _ _) ?_
      rw [hAlike.same]
      exact Action.perform_map _ _ _

------------------------------------------------------------
-- Fresh simulators
------------------------------------------------------------

/- Fresh simulators of one seed and limit start alike. -/
theorem Fresh.alike_start
    {sim sim' : FullState R}
    (hFresh : sim.Fresh)
    (hFresh' : sim'.Fresh)
    (hDraws : sim'.draws = sim.draws)
    (hLimit : sim'.maxQubits = sim.maxQubits) :
    Alike (Named.start sim) (Named.start sim') := by
  refine Named.alike_start hFresh.untouched.qubits_eq
    hFresh'.untouched.qubits_eq ?_
  unfold SameBesidesQubits
  ext1
  · rfl
  · exact hFresh'.untouched.state_eq.trans
      hFresh.untouched.state_eq.symm
  · rfl
  · exact hFresh'.untouched.results_eq.trans
      hFresh.untouched.results_eq.symm
  · exact hDraws
  · exact hFresh'.drawn_eq.trans hFresh.drawn_eq.symm
  · exact hLimit

end

end FullState

end QuantumRuntime

import QuantumRuntime.Proofs.Backend.Holdings
import QuantumRuntime.Proofs.Simulator.BitEffects
import QuantumRuntime.Proofs.Simulator.Effects
import QuantumRuntime.Proofs.Simulator.Fresh
import QuantumRuntime.Proofs.Simulator.LayerEffects
import QuantumRuntime.Simulator.Builtin

/-
  This file proves that every built-in backend keeps account of
  its handles: what each of its requests does to its tables is
  a step of holdings, in all states that it can get into.

  Key definitions include:
    * `Builtin.Holds`
    * `Builtin.Reachable`
    * `Builtin.bookkeeping`

  Key theorems include:
    * `FullState.step`
    * `Toffoli.step`
    * `Tracer.step`
    * `Builtin.Reachable.sound`
-/

namespace QuantumRuntime

/- A request that keeps handles and tables is a step. -/
theorem Holdings.step_of_keepsHandles
    {R : Type}
    {holdings after : Holdings}
    (request : Request R)
    (hKeeps : request.KeepsHandles)
    (answer : Except BackendError Reply)
    (hSame : after = holdings) :
    holdings.Step request answer after := by
  subst hSame
  cases answer with
  | error e => exact .refused request e
  | ok reply => exact .kept request reply hKeeps

------------------------------------------------------------
-- The simulator of the full state
------------------------------------------------------------

namespace FullState

variable {R : Type} [Scalar R]

/- The tables of a simulator. -/
def holdings
    (sim : FullState R) : Holdings :=
  .ofTables sim.qubits sim.results

/- Every effect of a request is a step of the tables. -/
theorem Effect.step
    {sim after : FullState R}
    {request : Request R}
    {answer : Except BackendError Reply}
    (hCoherent : sim.holdings.Coherent)
    (hEffect : sim.Effect request answer after) :
    sim.holdings.Step request answer after.holdings := by
  cases hEffect with
  | refused request e => exact .refused request e
  | allocated hRoom =>
      exact Holdings.step_allocated sim.state.qubitCount
  | released q position hLive =>
      have hShape :
          (sim.released q position).qubits.shape =
            (sim.qubits.without q).shape :=
        HandleTable.shape_updateLive _ _
      rw [show (sim.released q position).holdings =
          .ofTables (sim.qubits.without q) sim.results
        from congrArg (Holdings.mk · sim.results.shape) hShape]
      exact Holdings.step_released
        ((sim.qubits.live_iff q).mpr ⟨position, hLive⟩)
  | applied g target position hLive =>
      exact .kept (.apply g target) .done trivial
  | controlled g controls target mask position =>
      exact .kept (.applyControlled g controls target) .done
        trivial
  | measured bases targets basis target position bit state =>
      exact Holdings.step_measured bases targets bit
  | compared r₁ r₂ bit₁ bit₂ =>
      exact .kept (.areEqualResults r₁ r₂) _ trivial
  | read r bit => exact .kept (.resultValue r) _ trivial
  | constantKept r hConstant =>
      refine .resultKept r fun hLive => ?_
      exact hCoherent.not_isConstant
        (show sim.holdings.Holds (.result r) from hLive) hConstant
  | resultReleased r bit hDynamic hLive =>
      exact Holdings.step_resultReleased
        ((sim.results.live_iff r).mpr ⟨bit, hLive⟩)

theorem step
    (request : Request R)
    (sim : FullState R)
    (hCoherent : sim.holdings.Coherent) :
    sim.holdings.Step request (request.run.perform sim).1
      (request.run.perform sim).2.holdings :=
  (sim.effect request).step hCoherent

/- A live handle can be released. -/
theorem accepts
    (handle : Handle)
    (sim : FullState R)
    (hCoherent : sim.holdings.Coherent)
    (hHolds : sim.holdings.Holds handle) :
    ∃ reply,
      (handle.releaseRequest.run.perform sim).1 = .ok reply := by
  refine ⟨.done, ?_⟩
  cases handle with
  | qubit q =>
      rw [holdings, Holdings.holds_ofTables_qubit,
        HandleTable.live_iff] at hHolds
      rcases hHolds with ⟨position, hLive⟩
      rw [Handle.releaseRequest,
        Request.run_releaseQubit (perform_releaseQubit_of_live hLive)]
      rfl
  | result r =>
      have hDynamic : ¬ r.IsConstant :=
        hCoherent.not_isConstant hHolds
      rw [holdings, Holdings.holds_ofTables_result,
        HandleTable.live_iff] at hHolds
      rcases hHolds with ⟨bit, hLive⟩
      rw [Handle.releaseRequest,
        Request.run_releaseResult (perform_releaseResult r sim),
        if_neg hDynamic, HandleTable.release_of_live hLive]
      rfl

/- The full simulator keeps account of its handles. -/
def bookkeeping : Bookkeeping R (FullState R) where
  Sound sim := sim.holdings.Coherent
  holdings := holdings
  coherent _ hCoherent := hCoherent
  sound_run request sim hCoherent :=
    (step request sim hCoherent).coherent hCoherent
  step := step
  accepts := accepts

theorem Untouched.coherent
    {sim : FullState R}
    (hSim : sim.Untouched) :
    sim.holdings.Coherent := by
  rcases hSim.qubits_eq with ⟨recycle, hQubits⟩
  rw [holdings, hQubits, hSim.results_eq]
  exact Holdings.coherent_ofTables_make recycle

end FullState

------------------------------------------------------------
-- The simulator of bits
------------------------------------------------------------

namespace Toffoli

variable {R : Type}

/- The tables of a simulator. -/
def holdings
    (sim : Toffoli R) : Holdings :=
  .ofTables sim.qubits sim.results

/-
  The tables are coherent, and no results are kept when all
  results are constants.
-/
structure Sound
    (sim : Toffoli R) : Prop where
  coherent :
    sim.holdings.Coherent
  canonical :
    sim.mode = .canonical → ∀ r, ¬ sim.results.Live r

/- Turning a live qubit keeps the tables. -/
theorem shape_turned
    {sim : Toffoli R}
    {target : QubitId}
    {bit : Bool}
    (hLive : sim.qubits.get? target = some bit)
    (g : Gate R) :
    (sim.turned g target bit).qubits.shape = sim.qubits.shape := by
  unfold turned
  split
  · exact HandleTable.shape_overwrite hLive (!bit)
  · rfl

/-
  What a request may answer and leave behind, as far as the
  tables and the result mode tell.
-/
inductive Effect
    (sim : Toffoli R) :
    Request R → Except BackendError Reply → Toffoli R → Prop
  | refused
      (request : Request R)
      (e : BackendError) :
      Effect sim request (.error e) sim
  | allocated :
      Effect sim .allocateQubit
        (.ok (.qubit (sim.qubits.insert false).1))
        { sim with
          qubits :=
            (sim.qubits.insert false :
              QubitId × HandleTable QubitId Bool).2 }
  | released
      (q : QubitId)
      (hLive : sim.qubits.Live q) :
      Effect sim (.releaseQubit q) (.ok .done)
        { sim with qubits := sim.qubits.without q }
  | kept
      (request : Request R)
      (reply : Reply)
      (after : Toffoli R)
      (hKeeps : request.KeepsHandles)
      (hQubits : after.qubits.shape = sim.qubits.shape)
      (hResults : after.results = sim.results)
      (hMode : after.mode = sim.mode) :
      Effect sim request (.ok reply) after
  | measured
      (bases : List Pauli)
      (targets : List QubitId)
      (outcome : Bool) :
      Effect sim (.measure bases targets)
        (.ok (.result (sim.handOut outcome).1))
        (sim.handOut outcome).2
  | resultKept
      (r : ResultId)
      (hKept : r.IsConstant ∨ sim.mode = .canonical) :
      Effect sim (.releaseResult r) (.ok .done) sim
  | resultReleased
      (r : ResultId)
      (hTracked : sim.mode ≠ .canonical)
      (hLive : sim.results.Live r) :
      Effect sim (.releaseResult r) (.ok .done)
        { sim with results := sim.results.without r }

/- Every effect of a request is a step of the tables. -/
theorem Effect.step
    {sim after : Toffoli R}
    {request : Request R}
    {answer : Except BackendError Reply}
    (hSound : sim.Sound)
    (hEffect : sim.Effect request answer after) :
    sim.holdings.Step request answer after.holdings := by
  cases hEffect with
  | refused request e => exact .refused request e
  | allocated => exact Holdings.step_allocated false
  | released q hLive => exact Holdings.step_released hLive
  | kept request reply after hKeeps hQubits hResults =>
      apply Holdings.step_of_keepsHandles request hKeeps
      unfold holdings Holdings.ofTables
      rw [hQubits, hResults]
  | measured bases targets outcome =>
      cases hMode : sim.mode with
      | tracked =>
          simp only [handOut, hMode]
          exact Holdings.step_measured bases targets outcome
      | canonical =>
          simp only [handOut, hMode]
          refine .constantGiven bases targets _ ?_
          cases outcome <;> decide
  | resultKept r hKept =>
      apply Holdings.step_resultKept
      intro hLive
      rcases hKept with hConstant | hCanonical
      · exact hSound.coherent.not_isConstant
          ((Holdings.holds_ofTables_result r).mpr hLive) hConstant
      · exact hSound.canonical hCanonical r hLive
  | resultReleased r _ hLive =>
      exact Holdings.step_resultReleased hLive

/- Every effect keeps the simulator sound. -/
theorem Effect.sound
    {sim after : Toffoli R}
    {request : Request R}
    {answer : Except BackendError Reply}
    (hSound : sim.Sound)
    (hEffect : sim.Effect request answer after) :
    after.Sound where
  coherent := (hEffect.step hSound).coherent hSound.coherent
  canonical := by
    cases hEffect with
    | kept request reply after _ _ hResults hMode =>
        rw [hResults, hMode]
        exact hSound.canonical
    | measured bases targets outcome =>
        cases hMode : sim.mode with
        | tracked => simp [handOut, hMode]
        | canonical =>
            simp only [handOut, hMode]
            exact fun _ => hSound.canonical hMode
    | resultReleased r hTracked _ =>
        intro hMode
        exact absurd hMode hTracked
    | _ => exact hSound.canonical

variable [Scalar R]

/- Every request ends in one of these ways. -/
theorem effect
    (sim : Toffoli R)
    (request : Request R) :
    sim.Effect request (request.run.perform sim).1
      (request.run.perform sim).2 := by
  cases request with
  | allocateQubit => exact .allocated
  | releaseQubit q =>
      cases hKey : sim.qubits.get? q with
      | some bit =>
          rw [Request.run_releaseQubit
            (perform_releaseQubit_of_live hKey)]
          exact .released q
            ((sim.qubits.live_iff q).mpr ⟨bit, hKey⟩)
      | none =>
          rw [Request.run_releaseQubit
            (perform_releaseQubit_of_dead hKey)]
          exact .refused _ _
  | apply g target =>
      cases hKey : sim.qubits.get? target with
      | none =>
          rw [Request.run_apply (perform_apply_of_dead hKey g)]
          exact .refused _ _
      | some bit =>
          rw [Request.run_apply (perform_apply_of_live hKey g)]
          cases sim.checkGate "apply" g with
          | error e => exact .refused _ _
          | ok _ =>
              refine .kept _ _ _ trivial (shape_turned hKey g)
                ?_ ?_ <;>
              · dsimp only
                unfold turned
                split <;> rfl
  | applyControlled g controls target =>
      rw [Request.run_applyControlled
        (perform_applyControlled g controls target sim)]
      cases hKey : sim.qubits.get? target with
      | none =>
          rw [HandleTable.get_of_dead hKey]
          exact .refused _ _
      | some bit =>
          rw [HandleTable.get_of_live hKey]
          cases sim.qubits.checkLive "apply_controlled" controls with
          | error e => exact .refused _ _
          | ok _ =>
              cases checkDistinct controls target with
              | error e => exact .refused _ _
              | ok _ =>
                  cases sim.checkGate "apply_controlled" g with
                  | error e => exact .refused _ _
                  | ok _ =>
                      dsimp only
                      by_cases hSet :
                          ControlsSet sim.qubits controls
                      · rw [if_pos hSet]
                        refine .kept _ _ _ trivial
                          (shape_turned hKey g) ?_ ?_ <;>
                        · unfold turned
                          split <;> rfl
                      · rw [if_neg hSet]
                        exact .kept _ _ _ trivial rfl rfl rfl
  | measure bases targets =>
      cases hSingle :
          singleMeasurement sim.name bases targets with
      | error e =>
          rw [Request.run_measure (perform_measure_of_shape hSingle)]
          exact .refused _ _
      | ok pair =>
          rcases pair with ⟨basis, target⟩
          cases hKey : sim.qubits.get? target with
          | none =>
              rw [Request.run_measure
                (perform_measure_of_dead hSingle hKey)]
              exact .refused _ _
          | some bit =>
              rw [Request.run_measure
                (perform_measure_of_live hSingle hKey)]
              cases outcomeIn bit basis with
              | none => exact .refused _ _
              | some outcome =>
                  exact .measured bases targets outcome
  | areEqualResults r₁ r₂ =>
      rw [Request.run, Action.perform_map, Action.perform_query]
      cases Backend.areEqualResults sim r₁ r₂ with
      | error e => exact .refused _ _
      | ok value => exact .kept _ _ _ trivial rfl rfl rfl
  | releaseResult r =>
      rw [Request.run_releaseResult (perform_releaseResult r sim)]
      by_cases hKept : r.IsConstant ∨ sim.mode = .canonical
      · rw [if_pos hKept]
        exact .resultKept r hKept
      · rw [if_neg hKept]
        rcases not_or.mp hKept with ⟨_, hTracked⟩
        cases hKey : sim.results.get? r with
        | none =>
            rw [HandleTable.release_of_dead hKey]
            exact .refused _ _
        | some bit =>
            rw [HandleTable.release_of_live hKey]
            exact .resultReleased r hTracked
              ((sim.results.live_iff r).mpr ⟨bit, hKey⟩)
  | resultValue r =>
      rw [Request.run, Action.perform_map, Action.perform_query]
      cases Backend.resultValue sim r with
      | error e => exact .refused _ _
      | ok value => exact .kept _ _ _ trivial rfl rfl rfl

/- A live handle can be released. -/
theorem accepts
    (handle : Handle)
    (sim : Toffoli R)
    (_ : sim.Sound)
    (hHolds : sim.holdings.Holds handle) :
    ∃ reply,
      (handle.releaseRequest.run.perform sim).1 = .ok reply := by
  refine ⟨.done, ?_⟩
  cases handle with
  | qubit q =>
      rw [holdings, Holdings.holds_ofTables_qubit,
        HandleTable.live_iff] at hHolds
      rcases hHolds with ⟨bit, hLive⟩
      rw [Handle.releaseRequest,
        Request.run_releaseQubit (perform_releaseQubit_of_live hLive)]
      rfl
  | result r =>
      rw [holdings, Holdings.holds_ofTables_result,
        HandleTable.live_iff] at hHolds
      rcases hHolds with ⟨bit, hLive⟩
      rw [Handle.releaseRequest,
        Request.run_releaseResult (perform_releaseResult r sim),
        HandleTable.release_of_live hLive]
      split <;> rfl

/- The simulator of bits keeps account of its handles. -/
def bookkeeping : Bookkeeping R (Toffoli R) where
  Sound := Sound
  holdings := holdings
  coherent _ hSound := hSound.coherent
  sound_run request sim hSound :=
    (sim.effect request).sound hSound
  step request sim hSound := (sim.effect request).step hSound
  accepts := accepts

omit [Scalar R] in
theorem Untouched.sound
    {sim : Toffoli R}
    (hSim : sim.Untouched) :
    sim.Sound where
  coherent := by
    rcases hSim.qubits_eq with ⟨recycle, hQubits⟩
    rw [holdings, hQubits, hSim.results_eq]
    exact Holdings.coherent_ofTables_make recycle
  canonical _ r := by
    rw [hSim.results_eq]
    exact HandleTable.not_live_empty ResultId.firstDynamic r

end Toffoli

------------------------------------------------------------
-- The tracer
------------------------------------------------------------

namespace Tracer

variable {R : Type}

/- The tables of a tracer, which keeps no results. -/
def holdings
    (tracer : Tracer R) : Holdings :=
  .ofTables tracer.qubits
    (HandleTable.empty.withBase ResultId.firstDynamic :
      HandleTable ResultId Unit)

theorem not_holds_result
    (tracer : Tracer R)
    (r : ResultId) :
    ¬ tracer.holdings.Holds (.result r) := by
  rw [holdings, Holdings.holds_ofTables_result]
  exact HandleTable.not_live_empty ResultId.firstDynamic r

/- Moving live qubits to another layer keeps the tables. -/
theorem holdings_moved
    {tracer : Tracer R}
    {qs : List QubitId}
    (hLive : ∀ q ∈ qs, tracer.qubits.Live q)
    (layer : Nat) :
    (tracer.moved qs layer).holdings = tracer.holdings := by
  unfold holdings Holdings.ofTables moved
  rw [HandleTable.shape_overwriteAll hLive]

/- Every effect of a request is a step of the tables. -/
theorem Effect.step
    {tracer after : Tracer R}
    {request : Request R}
    {answer : Except BackendError Reply}
    (hEffect : tracer.Effect request answer after) :
    tracer.holdings.Step request answer after.holdings := by
  have hOne :
      ∀ (target : QubitId) (layer : Nat),
        tracer.qubits.get? target = some layer →
          (tracer.moved [target] (layer + 1)).holdings =
            tracer.holdings := by
    intro target layer hLive
    refine holdings_moved (fun q hMem => ?_) (layer + 1)
    cases List.mem_singleton.mp hMem
    exact (tracer.qubits.live_iff target).mpr ⟨layer, hLive⟩
  cases hEffect with
  | refused request e => exact .refused request e
  | allocated => exact Holdings.step_allocated 0
  | released q hLive => exact Holdings.step_released hLive
  | applied g target layer hLive =>
      exact Holdings.step_of_keepsHandles (.apply g target)
        trivial _ (hOne target layer hLive)
  | controlled g controls target layer hLive hControls =>
      refine Holdings.step_of_keepsHandles
        (.applyControlled g controls target) trivial _
        (holdings_moved (fun q hMem => ?_) _)
      rcases List.mem_append.mp hMem with hControl | hTarget
      · exact hControls q hControl
      · cases List.mem_singleton.mp hTarget
        exact (tracer.qubits.live_iff target).mpr ⟨layer, hLive⟩
  | measured bases targets basis target layer hSingle hLive =>
      rw [show
          (tracer.moved [target]
            (layer + 1)).measurementCounted.holdings =
            tracer.holdings
        from hOne target layer hLive]
      exact .constantGiven bases targets ResultId.zero (by decide)
  | compared r₁ r₂ =>
      exact .kept (.areEqualResults r₁ r₂) _ trivial
  | resultKept r => exact .resultKept r (tracer.not_holds_result r)
  | read r => exact .kept (.resultValue r) _ trivial

variable [Scalar R]

/- Every request is a step of the tables. -/
theorem step
    (request : Request R)
    (tracer : Tracer R) :
    tracer.holdings.Step request (request.run.perform tracer).1
      (request.run.perform tracer).2.holdings :=
  (tracer.effect request).step

/- The tracer keeps account of its qubits. -/
def bookkeeping : Bookkeeping R (Tracer R) where
  Sound tracer := tracer.holdings.Coherent
  holdings := holdings
  coherent _ hCoherent := hCoherent
  sound_run request tracer hCoherent :=
    (step request tracer).coherent hCoherent
  step request tracer _ := step request tracer
  accepts := by
    intro handle tracer _ hHolds
    refine ⟨.done, ?_⟩
    cases handle with
    | qubit q =>
        rw [holdings, Holdings.holds_ofTables_qubit,
          HandleTable.live_iff] at hHolds
        rcases hHolds with ⟨layer, hLive⟩
        rw [Handle.releaseRequest,
          Request.run_releaseQubit (perform_releaseQubit_of_live hLive)]
        rfl
    | result r => exact absurd hHolds (tracer.not_holds_result r)

end Tracer

------------------------------------------------------------
-- The stub
------------------------------------------------------------

namespace Stub

variable {R : Type} [Scalar R]

/- A stub refuses every request. -/
theorem perform_run
    (request : Request R)
    (stub : Stub R) :
    ∃ e, request.run.perform stub = (.error e, stub) := by
  cases request <;> exact ⟨_, rfl⟩

/- The stub has no handles to keep account of. -/
def bookkeeping : Bookkeeping R (Stub R) where
  Sound _ := True
  holdings _ :=
    .ofTables (HandleTable.empty : HandleTable QubitId Unit)
      (HandleTable.empty.withBase ResultId.firstDynamic :
        HandleTable ResultId Unit)
  coherent _ _ := Holdings.coherent_ofTables_make false
  sound_run _ _ _ := trivial
  step := by
    intro request stub _
    rcases perform_run request stub with ⟨e, hRun⟩
    rw [hRun]
    exact .refused request e
  accepts := by
    intro handle stub _ hHolds
    cases handle with
    | qubit q =>
        rw [Holdings.holds_ofTables_qubit] at hHolds
        exact (HandleTable.not_live_empty 0 q hHolds).elim
    | result r =>
        rw [Holdings.holds_ofTables_result] at hHolds
        exact (HandleTable.not_live_empty ResultId.firstDynamic r
          hHolds).elim

end Stub

------------------------------------------------------------
-- Built-in backends
------------------------------------------------------------

namespace Builtin

variable {R : Type}

/- A handle is live in a built-in backend. -/
def Holds : Builtin R → Handle → Prop
  | fullState sim, .qubit q => sim.qubits.Live q
  | fullState sim, .result r => sim.results.Live r
  | toffoli sim, .qubit q => sim.qubits.Live q
  | toffoli sim, .result r => sim.results.Live r
  | tracer t, .qubit q => t.qubits.Live q
  | tracer _, .result _ => False
  | stub _, _ => False

variable [Scalar R]

theorem fullState_morphism :
    Backend.Morphism (fullState : FullState R → Builtin R) :=
  ⟨fun _ => rfl, fun _ => rfl, fun _ => rfl, by
    intro request b
    cases request <;>
      simp only [Request.run, Action.perform_map] <;>
      rfl⟩

theorem toffoli_morphism :
    Backend.Morphism (toffoli : Toffoli R → Builtin R) :=
  ⟨fun _ => rfl, fun _ => rfl, fun _ => rfl, by
    intro request b
    cases request <;>
      simp only [Request.run, Action.perform_map] <;>
      rfl⟩

theorem tracer_morphism :
    Backend.Morphism (tracer : Tracer R → Builtin R) :=
  ⟨fun _ => rfl, fun _ => rfl, fun _ => rfl, by
    intro request b
    cases request <;>
      simp only [Request.run, Action.perform_map] <;>
      rfl⟩

theorem stub_morphism :
    Backend.Morphism (stub : Stub R → Builtin R) :=
  ⟨fun _ => rfl, fun _ => rfl, fun _ => rfl, by
    intro request b
    cases request <;>
      simp only [Request.run, Action.perform_map] <;>
      rfl⟩

/- Every built-in backend keeps account in its own way. -/
def bookkeeping : Bookkeeping R (Builtin R) where
  Sound
    | fullState sim => FullState.bookkeeping.Sound sim
    | toffoli sim => Toffoli.bookkeeping.Sound sim
    | tracer t => Tracer.bookkeeping.Sound t
    | stub s => Stub.bookkeeping.Sound s
  holdings
    | fullState sim => FullState.bookkeeping.holdings sim
    | toffoli sim => Toffoli.bookkeeping.holdings sim
    | tracer t => Tracer.bookkeeping.holdings t
    | stub s => Stub.bookkeeping.holdings s
  coherent
    | fullState sim => FullState.bookkeeping.coherent sim
    | toffoli sim => Toffoli.bookkeeping.coherent sim
    | tracer t => Tracer.bookkeeping.coherent t
    | stub s => Stub.bookkeeping.coherent s
  sound_run request
    | fullState sim => by
        rw [fullState_morphism.run_eq]
        exact FullState.bookkeeping.sound_run request sim
    | toffoli sim => by
        rw [toffoli_morphism.run_eq]
        exact Toffoli.bookkeeping.sound_run request sim
    | tracer t => by
        rw [tracer_morphism.run_eq]
        exact Tracer.bookkeeping.sound_run request t
    | stub s => by
        rw [stub_morphism.run_eq]
        exact Stub.bookkeeping.sound_run request s
  step request
    | fullState sim => by
        rw [fullState_morphism.run_eq]
        exact FullState.bookkeeping.step request sim
    | toffoli sim => by
        rw [toffoli_morphism.run_eq]
        exact Toffoli.bookkeeping.step request sim
    | tracer t => by
        rw [tracer_morphism.run_eq]
        exact Tracer.bookkeeping.step request t
    | stub s => by
        rw [stub_morphism.run_eq]
        exact Stub.bookkeeping.step request s
  accepts handle
    | fullState sim => by
        rw [fullState_morphism.run_eq]
        exact FullState.bookkeeping.accepts handle sim
    | toffoli sim => by
        rw [toffoli_morphism.run_eq]
        exact Toffoli.bookkeeping.accepts handle sim
    | tracer t => by
        rw [tracer_morphism.run_eq]
        exact Tracer.bookkeeping.accepts handle t
    | stub s => by
        rw [stub_morphism.run_eq]
        exact Stub.bookkeeping.accepts handle s

/- The account of a built-in backend lists what is live in it. -/
theorem holds_bookkeeping_iff
    (b : Builtin R)
    (handle : Handle) :
    bookkeeping.Holds b handle ↔ b.Holds handle := by
  cases b with
  | fullState sim =>
      cases handle with
      | qubit q => exact Holdings.holds_ofTables_qubit q
      | result r => exact Holdings.holds_ofTables_result r
  | toffoli sim =>
      cases handle with
      | qubit q => exact Holdings.holds_ofTables_qubit q
      | result r => exact Holdings.holds_ofTables_result r
  | tracer t =>
      cases handle with
      | qubit q => exact Holdings.holds_ofTables_qubit q
      | result r => exact iff_of_false (t.not_holds_result r) id
  | stub s =>
      refine iff_of_false (fun hHolds => ?_) id
      rcases Stub.bookkeeping.accepts handle s trivial hHolds with
        ⟨reply, hReply⟩
      rcases Stub.perform_run handle.releaseRequest s with ⟨e, hRun⟩
      rw [hRun] at hReply
      cases hReply

/-
  The states that a built-in backend can be in: it was made, it
  was asked requests, and its metrics were taken.
-/
inductive Reachable : Builtin R → Prop
  | fullState
      (sim : FullState R)
      (hFresh : sim.Fresh) :
      Reachable (.fullState sim)
  | toffoli
      (sim : Toffoli R)
      (hFresh : sim.Fresh) :
      Reachable (.toffoli sim)
  | tracer
      (name : String) :
      Reachable (.tracer { (Tracer.start : Tracer R) with name := name })
  | stub
      (s : Stub R) :
      Reachable (.stub s)
  | request
      (request : Request R)
      (b : Builtin R)
      (hReachable : Reachable b) :
      Reachable (request.run.perform b).2
  | takeMetrics
      (b : Builtin R)
      (hReachable : Reachable b) :
      Reachable ((Observable.takeMetrics (R := R)).perform b).2

/- Every reachable state is accounted for. -/
theorem Reachable.sound
    {b : Builtin R}
    (hReachable : b.Reachable) :
    bookkeeping.Sound b := by
  induction hReachable with
  | fullState sim hFresh => exact hFresh.untouched.coherent
  | toffoli sim hFresh => exact hFresh.untouched.sound
  | tracer name => exact Holdings.coherent_ofTables_make false
  | stub s => trivial
  | request request b _ ih =>
      exact bookkeeping.sound_run request b ih
  | takeMetrics b _ ih => cases b <;> exact ih

end Builtin

end QuantumRuntime

import QuantumRuntime.Proofs.HandleTable.Shape
import QuantumRuntime.Proofs.Performance
import QuantumRuntime.Proofs.Simulator.Amplitudes
import QuantumRuntime.Simulator.FullState

/-
  This file says once what each request does to the simulator
  that keeps the full state: which answer it gives, under which
  condition, and which simulator it leaves. Facts about runs
  are proved from these effects by a case for each of them.

  Key definitions include:
    * `FullState.nextOutcome`
    * `FullState.allocated`
    * `FullState.released`
    * `FullState.Effect`

  Key theorems include:
    * `FullState.perform_releaseQubit_of_live`
    * `FullState.perform_measureAt`
    * `FullState.effect`
-/

namespace QuantumRuntime

namespace FullState

variable {R : Type} [Scalar R]

------------------------------------------------------------
-- Changes of the state vector
------------------------------------------------------------

/- The simulator after a gate at a position. -/
def applied
    (g : Gate R)
    (mask position : Nat)
    (sim : FullState R) : FullState R :=
  { sim with state := sim.state.applyGate g mask position }

theorem perform_applyAt
    (g : Gate R)
    (mask position : Nat)
    (sim : FullState R) :
    (applyAt g mask position).perform sim =
      (.ok (), sim.applied g mask position) :=
  rfl

/- The outcome that the next draw gives at a position. -/
def nextOutcome
    (position : Nat)
    (sim : FullState R) : Bool :=
  Scalar.less (sim.draws sim.drawn)
    (sim.state.probabilityOne position)

/- The simulator after its next draw was spent at a position. -/
def collapsed
    (position : Nat)
    (sim : FullState R) : FullState R :=
  { sim with
    state :=
      sim.state.collapse position (sim.nextOutcome position)
    drawn := sim.drawn + 1 }

theorem perform_measureBit
    (position : Nat)
    (sim : FullState R) :
    (measureBit position).perform sim =
      (.ok (sim.nextOutcome position), sim.collapsed position) :=
  rfl

/-
  Measuring in a basis never fails. It changes the state vector
  but not its size, and takes one draw, or none in the trivial
  basis.
-/
theorem perform_measureAt
    (position : Nat)
    (basis : Pauli)
    (sim : FullState R) :
    ∃ bit state,
      (measureAt position basis).perform sim =
          (.ok bit,
            { sim with
              state := state
              drawn := sim.drawn + if basis = .i then 0 else 1 }) ∧
        state.qubitCount = sim.state.qubitCount := by
  cases basis with
  | i => exact ⟨false, sim.state, rfl, rfl⟩
  | z =>
      exact ⟨sim.nextOutcome position, _,
        perform_measureBit position sim, by simp⟩
  | x =>
      refine
        ⟨(sim.applied .h 0 position).nextOutcome position,
          (((sim.applied .h 0 position).collapsed
            position).applied .h 0 position).state, ?_, ?_⟩
      · simp only [measureAt, Action.perform_bind,
          Action.perform_pure, perform_applyAt,
          perform_measureBit]
        rfl
      · simp [collapsed, applied]
  | y =>
      refine
        ⟨((sim.applied .sdg 0 position).applied
            .h 0 position).nextOutcome position,
          (((((sim.applied .sdg 0 position).applied
            .h 0 position).collapsed position).applied
            .h 0 position).applied .s 0 position).state, ?_, ?_⟩
      · simp only [measureAt, Action.perform_bind,
          Action.perform_pure, perform_applyAt,
          perform_measureBit]
        rfl
      · simp [collapsed, applied]

------------------------------------------------------------
-- Allocating and releasing
------------------------------------------------------------

/- The qubit that is issued next. -/
def nextQubit
    (sim : FullState R) : QubitId :=
  (sim.qubits.insert sim.state.qubitCount).1

/- The simulator after a qubit has been allocated. -/
def allocated
    (sim : FullState R) : FullState R :=
  { sim with
    state := sim.state.addQubit
    qubits :=
      (sim.qubits.insert sim.state.qubitCount :
        QubitId × HandleTable QubitId Nat).2 }

theorem perform_allocateQubit_of_room
    {sim : FullState R}
    (hRoom : sim.qubits.liveCount < sim.maxQubits) :
    (allocateQubit (R := R)).perform sim =
      (.ok sim.nextQubit, sim.allocated) := by
  simp only [allocateQubit, Action.perform_bind,
    Action.perform_get, if_neg (Nat.not_le.mpr hRoom)]
  rfl

theorem perform_allocateQubit_of_full
    {sim : FullState R}
    (hFull : sim.maxQubits ≤ sim.qubits.liveCount) :
    (allocateQubit (R := R)).perform sim =
      (.error (.unsupported sim.name
        s!"allocate_qubit beyond {sim.maxQubits} live qubits"),
        sim) := by
  simp only [allocateQubit, Action.perform_bind,
    Action.perform_get, if_pos hFull]
  rfl

/-
  The state vector after the qubit at a position was measured,
  brought to zero and removed.
-/
def compacted
    (position : Nat)
    (sim : FullState R) : StateVector R :=
  let outcome := sim.nextOutcome position
  let state := sim.state.collapse position outcome
  let settled :=
    if outcome then state.applyGate .x 0 position else state
  settled.removeQubit position

@[simp] theorem qubitCount_compacted
    (position : Nat)
    (sim : FullState R) :
    (sim.compacted position).qubitCount =
      sim.state.qubitCount - 1 := by
  unfold compacted
  dsimp only
  split <;> simp

/- The simulator after the qubit at a position was released. -/
def released
    (q : QubitId)
    (position : Nat)
    (sim : FullState R) : FullState R :=
  { sim with
    state := sim.compacted position
    qubits :=
      (sim.qubits.without q).mapLive (lowerAbove position)
    drawn := sim.drawn + 1 }

/- What each qubit finds after one has been released. -/
theorem get?_qubits_released
    {sim : FullState R}
    {q : QubitId}
    {removed : Nat}
    (hLive : sim.qubits.get? q = some removed)
    (r : QubitId) :
    (sim.released q removed).qubits.get? r =
      if r = q then
        none
      else
        (sim.qubits.get? r).map (lowerAbove removed) := by
  have hIssued := HandleTable.issued_of_get?_eq_some _ hLive
  rw [show (sim.released q removed).qubits.get? r = _ from
      HandleTable.get?_updateLive _ _ _,
    HandleTable.get?_without hIssued]
  split <;> rfl

theorem perform_releaseQubit_of_live
    {sim : FullState R}
    {q : QubitId}
    {position : Nat}
    (hLive : sim.qubits.get? q = some position) :
    (releaseQubit q).perform sim =
      (.ok (), sim.released q position) := by
  simp only [releaseQubit, Action.perform_bind,
    Action.perform_get, Action.perform_ofExcept,
    HandleTable.release_of_live hLive, Action.perform_modify,
    perform_measureBit]
  cases hOutcome : sim.nextOutcome position with
  | false =>
      have hSame :
          nextOutcome position
            { sim with qubits := sim.qubits.without q } =
            false := hOutcome
      simp [hSame, released, compacted, collapsed, hOutcome]
  | true =>
      have hSame :
          nextOutcome position
            { sim with qubits := sim.qubits.without q } =
            true := hOutcome
      simp [hSame, released, compacted, collapsed, hOutcome,
        perform_applyAt, applied]

theorem perform_releaseQubit_of_dead
    {sim : FullState R}
    {q : QubitId}
    (hDead : sim.qubits.get? q = none) :
    (releaseQubit q).perform sim =
      (.error (sim.qubits.violation q "release_qubit"), sim) := by
  simp only [releaseQubit, Action.perform_bind,
    Action.perform_get, Action.perform_ofExcept,
    HandleTable.release_of_dead hDead]

------------------------------------------------------------
-- Gates and measurements
------------------------------------------------------------

theorem perform_apply
    (g : Gate R)
    (target : QubitId)
    (sim : FullState R) :
    (apply g target).perform sim =
      match sim.qubits.get target "apply" with
      | .ok position => (.ok (), sim.applied g 0 position)
      | .error e => (.error e, sim) := by
  simp only [apply, Action.perform_bind, Action.perform_get,
    Action.perform_ofExcept]
  cases sim.qubits.get target "apply" <;> rfl

theorem perform_applyControlled
    (g : Gate R)
    (controls : List QubitId)
    (target : QubitId)
    (sim : FullState R) :
    (applyControlled g controls target).perform sim =
      match sim.qubits.get target "apply_controlled",
        controlMask sim.qubits controls,
        checkDistinct controls target with
      | .ok position, .ok mask, .ok _ =>
          (.ok (), sim.applied g mask position)
      | .error e, _, _ => (.error e, sim)
      | _, .error e, _ => (.error e, sim)
      | _, _, .error e => (.error e, sim) := by
  simp only [applyControlled, Action.perform_bind,
    Action.perform_get, Action.perform_ofExcept]
  cases sim.qubits.get target "apply_controlled" with
  | error e => rfl
  | ok position =>
      cases controlMask sim.qubits controls with
      | error e => rfl
      | ok mask => cases checkDistinct controls target <;> rfl

theorem perform_measure_of_live
    {bases : List Pauli}
    {targets : List QubitId}
    {basis : Pauli}
    {target : QubitId}
    {position : Nat}
    {bit : Bool}
    {sim sim' : FullState R}
    (hSingle :
      singleMeasurement sim.name bases targets =
        .ok (basis, target))
    (hLive : sim.qubits.get? target = some position)
    (hMeasured :
      (measureAt position basis).perform sim = (.ok bit, sim')) :
    (measure bases targets).perform sim =
      (.ok (sim'.results.insert bit).1,
        { sim' with
          results :=
            (sim'.results.insert bit :
              ResultId × HandleTable ResultId Bool).2 }) := by
  simp only [measure, Action.perform_bind, Action.perform_get,
    Action.perform_ofExcept, hSingle,
    HandleTable.get_of_live hLive, hMeasured,
    Action.perform_modify, Action.perform_pure]

theorem perform_measure_of_shape
    {bases : List Pauli}
    {targets : List QubitId}
    {e : BackendError}
    {sim : FullState R}
    (hSingle :
      singleMeasurement sim.name bases targets = .error e) :
    (measure bases targets).perform sim = (.error e, sim) := by
  simp only [measure, Action.perform_bind, Action.perform_get,
    Action.perform_ofExcept, hSingle]

theorem perform_measure_of_dead
    {bases : List Pauli}
    {targets : List QubitId}
    {basis : Pauli}
    {target : QubitId}
    {sim : FullState R}
    (hSingle :
      singleMeasurement sim.name bases targets =
        .ok (basis, target))
    (hDead : sim.qubits.get? target = none) :
    (measure bases targets).perform sim =
      (.error (sim.qubits.violation target "measure"), sim) := by
  simp only [measure, Action.perform_bind, Action.perform_get,
    Action.perform_ofExcept, hSingle,
    HandleTable.get_of_dead hDead]

omit [Scalar R] in
theorem perform_releaseResult
    (r : ResultId)
    (sim : FullState R) :
    (releaseResult r).perform sim =
      if r.IsConstant then
        (.ok (), sim)
      else
        match sim.results.release r "release_result" with
        | .ok (_, results) =>
            (.ok (), { sim with results := results })
        | .error e => (.error e, sim) := by
  unfold releaseResult
  by_cases hConstant : r.IsConstant
  · rw [if_pos hConstant, if_pos hConstant]
    rfl
  · rw [if_neg hConstant, if_neg hConstant]
    simp only [Action.perform_bind, Action.perform_get,
      Action.perform_ofExcept]
    rcases sim.results.release r "release_result" with
      e | ⟨bit, results⟩ <;> rfl

omit [Scalar R] in
theorem areEqualResults_eq
    (sim : FullState R)
    (r₁ r₂ : ResultId) :
    sim.areEqualResults r₁ r₂ =
      match sim.value "result_equal" r₁,
        sim.value "result_equal" r₂ with
      | .ok bit₁, .ok bit₂ => .ok (bit₁ = bit₂)
      | .error e, _ => .error e
      | _, .error e => .error e := by
  unfold areEqualResults
  cases sim.value "result_equal" r₁ with
  | error e => rfl
  | ok bit₁ => cases sim.value "result_equal" r₂ <;> rfl

------------------------------------------------------------
-- Effects
------------------------------------------------------------

/-
  What a request may answer and leave behind. Each constructor
  is one way for a request to end, with the condition for it.
-/
inductive Effect
    (sim : FullState R) :
    Request R → Except BackendError Reply →
      FullState R → Prop
  | refused
      (request : Request R)
      (e : BackendError) :
      Effect sim request (.error e) sim
  | allocated
      (hRoom : sim.qubits.liveCount < sim.maxQubits) :
      Effect sim .allocateQubit
        (.ok (.qubit sim.nextQubit)) sim.allocated
  | released
      (q : QubitId)
      (position : Nat)
      (hLive : sim.qubits.get? q = some position) :
      Effect sim (.releaseQubit q)
        (.ok .done) (sim.released q position)
  | applied
      (g : Gate R)
      (target : QubitId)
      (position : Nat)
      (hLive : sim.qubits.get? target = some position) :
      Effect sim (.apply g target)
        (.ok .done) (sim.applied g 0 position)
  | controlled
      (g : Gate R)
      (controls : List QubitId)
      (target : QubitId)
      (mask position : Nat)
      (hLive : sim.qubits.get? target = some position)
      (hMask : controlMask sim.qubits controls = .ok mask)
      (hDistinct : checkDistinct controls target = .ok ()) :
      Effect sim (.applyControlled g controls target)
        (.ok .done) (sim.applied g mask position)
  | measured
      (bases : List Pauli)
      (targets : List QubitId)
      (basis : Pauli)
      (target : QubitId)
      (position : Nat)
      (bit : Bool)
      (state : StateVector R)
      (hSingle :
        singleMeasurement sim.name bases targets =
          .ok (basis, target))
      (hLive : sim.qubits.get? target = some position)
      (hMeasured :
        (measureAt position basis).perform sim =
          (.ok bit,
            { sim with
              state := state
              drawn := sim.drawn + if basis = .i then 0 else 1 }))
      (hCount : state.qubitCount = sim.state.qubitCount) :
      Effect sim (.measure bases targets)
        (.ok (.result (sim.results.insert bit).1))
        { sim with
          state := state
          drawn := sim.drawn + if basis = .i then 0 else 1
          results :=
            (sim.results.insert bit :
              ResultId × HandleTable ResultId Bool).2 }
  | compared
      (r₁ r₂ : ResultId)
      (bit₁ bit₂ : Bool)
      (hFirst : sim.value "result_equal" r₁ = .ok bit₁)
      (hSecond : sim.value "result_equal" r₂ = .ok bit₂) :
      Effect sim (.areEqualResults r₁ r₂)
        (.ok (.bit (bit₁ = bit₂))) sim
  | read
      (r : ResultId)
      (bit : Bool)
      (hValue : sim.value "result_value" r = .ok bit) :
      Effect sim (.resultValue r) (.ok (.bit bit)) sim
  | constantKept
      (r : ResultId)
      (hConstant : r.IsConstant) :
      Effect sim (.releaseResult r) (.ok .done) sim
  | resultReleased
      (r : ResultId)
      (bit : Bool)
      (hDynamic : ¬ r.IsConstant)
      (hLive : sim.results.get? r = some bit) :
      Effect sim (.releaseResult r) (.ok .done)
        { sim with results := sim.results.without r }

/- Every request ends in one of these ways. -/
theorem effect
    (sim : FullState R)
    (request : Request R) :
    sim.Effect request (request.run.perform sim).1
      (request.run.perform sim).2 := by
  cases request with
  | allocateQubit =>
      by_cases hRoom : sim.qubits.liveCount < sim.maxQubits
      · rw [Request.run_allocateQubit
          (perform_allocateQubit_of_room hRoom)]
        exact .allocated hRoom
      · rw [Request.run_allocateQubit
          (perform_allocateQubit_of_full (Nat.le_of_not_lt hRoom))]
        exact .refused _ _
  | releaseQubit q =>
      cases hKey : sim.qubits.get? q with
      | some position =>
          rw [Request.run_releaseQubit
            (perform_releaseQubit_of_live hKey)]
          exact .released q position hKey
      | none =>
          rw [Request.run_releaseQubit
            (perform_releaseQubit_of_dead hKey)]
          exact .refused _ _
  | apply g target =>
      rw [Request.run_apply (perform_apply g target sim)]
      cases hKey : sim.qubits.get? target with
      | some position =>
          rw [HandleTable.get_of_live hKey]
          exact .applied g target position hKey
      | none =>
          rw [HandleTable.get_of_dead hKey]
          exact .refused _ _
  | applyControlled g controls target =>
      rw [Request.run_applyControlled
        (perform_applyControlled g controls target sim)]
      cases hKey : sim.qubits.get? target with
      | none =>
          rw [HandleTable.get_of_dead hKey]
          exact .refused _ _
      | some position =>
          rw [HandleTable.get_of_live hKey]
          cases hMask : controlMask sim.qubits controls with
          | error e => exact .refused _ _
          | ok mask =>
              cases hDistinct : checkDistinct controls target with
              | error e => exact .refused _ _
              | ok _ =>
                  exact .controlled g controls target mask
                    position hKey hMask hDistinct
  | measure bases targets =>
      cases hSingle :
          singleMeasurement sim.name bases targets with
      | error e =>
          rw [Request.run_measure (perform_measure_of_shape hSingle)]
          exact .refused _ _
      | ok pair =>
          rcases pair with ⟨basis, target⟩
          cases hKey : sim.qubits.get? target with
          | none =>
              rw [Request.run_measure
                (perform_measure_of_dead hSingle hKey)]
              exact .refused _ _
          | some position =>
              rcases sim.perform_measureAt position basis with
                ⟨bit, state, hMeasured, hCount⟩
              rw [Request.run_measure
                (perform_measure_of_live hSingle hKey hMeasured)]
              exact .measured bases targets basis target position
                bit state hSingle hKey hMeasured hCount
  | areEqualResults r₁ r₂ =>
      rw [Request.run, Action.perform_map, Action.perform_query,
        show Backend.areEqualResults sim r₁ r₂ = _
          from areEqualResults_eq sim r₁ r₂]
      cases hFirst : sim.value "result_equal" r₁ with
      | error e => exact .refused _ _
      | ok bit₁ =>
          cases hSecond : sim.value "result_equal" r₂ with
          | error e => exact .refused _ _
          | ok bit₂ =>
              exact .compared r₁ r₂ bit₁ bit₂ hFirst hSecond
  | releaseResult r =>
      rw [Request.run_releaseResult (perform_releaseResult r sim)]
      by_cases hConstant : r.IsConstant
      · rw [if_pos hConstant]
        exact .constantKept r hConstant
      · rw [if_neg hConstant]
        cases hKey : sim.results.get? r with
        | some bit =>
            rw [HandleTable.release_of_live hKey]
            exact .resultReleased r bit hConstant hKey
        | none =>
            rw [HandleTable.release_of_dead hKey]
            exact .refused _ _
  | resultValue r =>
      rw [Request.run, Action.perform_map, Action.perform_query,
        show Backend.resultValue sim r =
          sim.value "result_value" r from rfl]
      cases hValue : sim.value "result_value" r with
      | error e => exact .refused _ _
      | ok bit => exact .read r bit hValue

end FullState

end QuantumRuntime

import QuantumRuntime.Proofs.Simulator.Mirrors

/-
  This file proves that on classical programs the simulator of
  the full state and the simulator of bits cannot be told apart:
  they give the same answers to every request, up to the name of
  the backend, and the full state stays the basis state that the
  bits describe.

  Key definitions include:
    * `Request.IsClassical`
    * `BackendError.anonymous`
    * `FullState.HasRoom`
    * `Mirrored`

  Key theorems include:
    * `Mirrors.step`
    * `Mirrors.run`
    * `classical_runs_agree`
-/

namespace QuantumRuntime

------------------------------------------------------------
-- Classical programs
------------------------------------------------------------

/-
  A classical request applies only gates that flip a bit or are
  diagonal and measures only in the computational or the trivial
  basis.
-/
def Request.IsClassical
    {R : Type} : Request R → Prop
  | apply g _ => g.IsBitFlip ∨ g.IsDiagonal
  | applyControlled g _ _ => g.IsBitFlip ∨ g.IsDiagonal
  | measure bases _ => ∀ basis ∈ bases, basis = .z ∨ basis = .i
  | _ => True

/- The error without the name of the backend. -/
def BackendError.anonymous : BackendError → BackendError
  | unsupported _ operation => unsupported "" operation
  | e => e

/- The answer without the name of the backend. -/
def anonymousAnswer
    {α : Type}
    (answer : Except BackendError α) : Except BackendError α :=
  answer.mapError BackendError.anonymous

/- No allocation in a run finds the limit of live qubits reached. -/
def FullState.HasRoom
    {R : Type}
    [Scalar R]
    (sim : FullState R)
    (requests : List (Request R)) : Prop :=
  ∀ first rest, requests = first ++ .allocateQubit :: rest →
    (runRequests sim first).2.qubits.liveCount <
      (runRequests sim first).2.maxQubits

/- The limit is not reached by the rest of a run either. -/
theorem FullState.HasRoom.tail
    {R : Type}
    [Scalar R]
    {sim : FullState R}
    {request : Request R}
    {requests : List (Request R)}
    (hRoom : sim.HasRoom (request :: requests)) :
    FullState.HasRoom (request.run.perform sim).2 requests := by
  intro first rest hSplit
  exact hRoom (request :: first) rest (by rw [hSplit]; rfl)

/- The limit is not reached in the first part of a run either. -/
theorem FullState.HasRoom.left
    {R : Type}
    [Scalar R]
    {sim : FullState R}
    {first rest : List (Request R)}
    (hRoom : sim.HasRoom (first ++ rest)) :
    sim.HasRoom first := by
  rintro before after rfl
  exact hRoom before (after ++ rest)
    (by rw [List.append_assoc]; rfl)

/- A request adds at most one live qubit. -/
theorem FullState.Effect.liveCount_le
    {R : Type}
    [Scalar R]
    {sim sim' : FullState R}
    {request : Request R}
    {answer : Except BackendError Reply}
    (hEffect : sim.Effect request answer sim') :
    sim'.qubits.liveCount ≤ sim.qubits.liveCount + 1 := by
  cases hEffect with
  | allocated hRoom =>
      exact Nat.le_of_eq
        (HandleTable.liveCount_insert (K := QubitId) _ _)
  | released q position hLive =>
      exact Nat.le_trans (Nat.sub_le _ 1) (Nat.le_succ _)
  | _ => exact Nat.le_succ _

/- A program shorter than the limit does not reach it. -/
theorem FullState.hasRoom_of_length_le
    {R : Type}
    [Scalar R]
    {sim : FullState R}
    {requests : List (Request R)}
    (hLength :
      sim.qubits.liveCount + requests.length ≤ sim.maxQubits) :
    sim.HasRoom requests := by
  have hGrowth :
      ∀ (first : List (Request R)) (start : FullState R),
        (runRequests start first).2.qubits.liveCount ≤
          start.qubits.liveCount + first.length := by
    intro first
    induction first with
    | nil => exact fun start => Nat.le_refl _
    | cons request rest ih =>
        intro start
        have hStep := (start.effect request).liveCount_le
        have hRest := ih (request.run.perform start).2
        rw [runRequests_cons, List.length_cons]
        dsimp only
        omega
  rintro first rest rfl
  have hFirst := hGrowth first sim
  have hLimit := (sim.sameSettings_run first).maxQubits_eq
  rw [List.length_append, List.length_cons] at hLength
  omega

/- The shape of arguments is checked alike under any name. -/
theorem singleMeasurement_cases
    (name name' : String)
    (bases : List Pauli)
    (targets : List QubitId) :
    (∃ pair,
      singleMeasurement name bases targets = .ok pair ∧
        singleMeasurement name' bases targets = .ok pair) ∨
      ∃ e e',
        singleMeasurement name bases targets = .error e ∧
          singleMeasurement name' bases targets = .error e' ∧
          e.anonymous = e'.anonymous := by
  unfold singleMeasurement
  split
  · exact Or.inr ⟨_, _, rfl, rfl, rfl⟩
  · split
    · exact Or.inl ⟨_, rfl, rfl⟩
    · exact Or.inr ⟨_, _, rfl, rfl, rfl⟩
    · exact Or.inr ⟨_, _, rfl, rfl, rfl⟩

/- A measurement that is accepted names one of its bases. -/
theorem mem_of_singleMeasurement
    {name : String}
    {bases : List Pauli}
    {targets : List QubitId}
    {basis : Pauli}
    {target : QubitId}
    (hSingle :
      singleMeasurement name bases targets =
        .ok (basis, target)) :
    basis ∈ bases := by
  unfold singleMeasurement at hSingle
  split at hSingle
  · cases hSingle
  · split at hSingle
    · cases hSingle
      exact List.mem_singleton_self _
    · cases hSingle
    · cases hSingle

------------------------------------------------------------
-- Requests
------------------------------------------------------------

/-
  Two actions are mirrored when they answer alike up to the name
  of the backend and leave simulators that mirror each other.
-/
def Mirrored
    {α : Type}
    (onFull : Action (FullState ℝ) BackendError α)
    (onBits : Action (Toffoli ℝ) BackendError α)
    (full : FullState ℝ)
    (bits : Toffoli ℝ) : Prop :=
  anonymousAnswer (onFull.perform full).1 =
      anonymousAnswer (onBits.perform bits).1 ∧
    ∃ k, Mirrors (onFull.perform full).2
      (onBits.perform bits).2 k

namespace Mirrored

variable {full full' : FullState ℝ} {bits bits' : Toffoli ℝ}

/- Actions that answer the same are mirrored. -/
theorem of_perform
    {α : Type}
    {onFull : Action (FullState ℝ) BackendError α}
    {onBits : Action (Toffoli ℝ) BackendError α}
    {answer : Except BackendError α}
    {k : Nat}
    (hFull : onFull.perform full = (answer, full'))
    (hBits : onBits.perform bits = (answer, bits'))
    (hMirrors : Mirrors full' bits' k) :
    Mirrored onFull onBits full bits := by
  unfold Mirrored
  rw [hFull, hBits]
  exact ⟨rfl, k, hMirrors⟩

/- What is made of the answers does not matter. -/
theorem map
    {α β : Type}
    {onFull : Action (FullState ℝ) BackendError α}
    {onBits : Action (Toffoli ℝ) BackendError α}
    (f : α → β)
    (hMirrored : Mirrored onFull onBits full bits) :
    Mirrored (f <$> onFull) (f <$> onBits) full bits := by
  have hMap :
      ∀ answer : Except BackendError α,
        anonymousAnswer (answer.map f) =
          (anonymousAnswer answer).map f := by
    intro answer
    cases answer <;> rfl
  unfold Mirrored
  rw [Action.perform_map, Action.perform_map, hMap, hMap,
    hMirrored.1]
  exact ⟨rfl, hMirrored.2⟩

end Mirrored

namespace Mirrors

variable {full : FullState ℝ} {bits : Toffoli ℝ} {k : Nat}

theorem allocateQubit
    (hMirrors : Mirrors full bits k)
    (hRoom : full.qubits.liveCount < full.maxQubits) :
    Mirrored FullState.allocateQubit Toffoli.allocateQubit
      full bits := by
  rcases hMirrors.allocated hRoom with ⟨hKey, hNext⟩
  refine .of_perform
    (FullState.perform_allocateQubit_of_room hRoom) ?_ hNext
  rw [Toffoli.perform_allocateQubit, hKey]

theorem releaseQubit
    (hMirrors : Mirrors full bits k)
    (q : QubitId) :
    Mirrored (FullState.releaseQubit q) (Toffoli.releaseQubit q)
      full bits := by
  cases hKey : full.qubits.get? q with
  | some position =>
      exact .of_perform
        (FullState.perform_releaseQubit_of_live hKey)
        (Toffoli.perform_releaseQubit_of_live
          (hMirrors.bit_eq q position hKey))
        (hMirrors.released hKey)
  | none =>
      refine .of_perform
        (FullState.perform_releaseQubit_of_dead hKey) ?_ hMirrors
      rw [Toffoli.perform_releaseQubit_of_dead
          (hMirrors.get?_eq_none hKey),
        hMirrors.violation_eq]

/- Classical gates pass the check of the simulator of bits. -/
theorem checkGate_of_classical
    {g : Gate ℝ}
    (hClassical : g.IsBitFlip ∨ g.IsDiagonal)
    (bits : Toffoli ℝ)
    (operation : String) :
    bits.checkGate operation g = .ok () :=
  if_pos hClassical

theorem apply
    (hMirrors : Mirrors full bits k)
    {g : Gate ℝ}
    (hClassical : g.IsBitFlip ∨ g.IsDiagonal)
    (target : QubitId) :
    Mirrored (FullState.apply g target) (Toffoli.apply g target)
      full bits := by
  have hFull := FullState.perform_apply g target full
  cases hKey : full.qubits.get? target with
  | some position =>
      have hBits :=
        Toffoli.perform_apply_of_live
          (hMirrors.bit_eq target position hKey) g
      have hNext :=
        hMirrors.applied hClassical hKey
          (Nat.zero_testBit position)
      rw [HandleTable.get_of_live hKey] at hFull
      rw [checkGate_of_classical hClassical] at hBits
      rw [if_pos ((holds_iff 0 k).mpr (by simp))] at hNext
      exact .of_perform hFull hBits hNext
  | none =>
      have hBits :=
        Toffoli.perform_apply_of_dead
          (hMirrors.get?_eq_none hKey) g
      rw [HandleTable.get_of_dead hKey] at hFull
      rw [hMirrors.violation_eq] at hBits
      exact .of_perform hFull hBits hMirrors

theorem applyControlled
    (hMirrors : Mirrors full bits k)
    {g : Gate ℝ}
    (hClassical : g.IsBitFlip ∨ g.IsDiagonal)
    (controls : List QubitId)
    (target : QubitId) :
    Mirrored (FullState.applyControlled g controls target)
      (Toffoli.applyControlled g controls target) full bits := by
  have hCheck :=
    checkGate_of_classical hClassical bits "apply_controlled"
  have hControls :
      bits.qubits.checkLive "apply_controlled" controls =
        (FullState.controlMask full.qubits controls).map
          fun _ => () := by
    rw [FullState.map_controlMask]
    exact HandleTable.checkLive_eq_of_shape_eq
      hMirrors.shape_eq _ controls
  have hFull :=
    FullState.perform_applyControlled g controls target full
  have hBits :=
    Toffoli.perform_applyControlled g controls target bits
  rw [hControls, hCheck] at hBits
  cases hKey : full.qubits.get? target with
  | none =>
      rw [HandleTable.get_of_dead hKey] at hFull
      rw [HandleTable.get_of_dead (hMirrors.get?_eq_none hKey),
        hMirrors.violation_eq] at hBits
      exact .of_perform hFull hBits hMirrors
  | some position =>
      rw [HandleTable.get_of_live hKey] at hFull
      rw [HandleTable.get_of_live
        (hMirrors.bit_eq target position hKey)] at hBits
      cases hMask :
          FullState.controlMask full.qubits controls with
      | error e =>
          rw [hMask] at hFull hBits
          exact .of_perform hFull hBits hMirrors
      | ok mask =>
          rw [hMask] at hFull hBits
          cases hDistinct : checkDistinct controls target with
          | error e =>
              rw [hDistinct] at hFull hBits
              exact .of_perform hFull hBits hMirrors
          | ok _ =>
              rw [hDistinct] at hFull hBits
              have hNext :=
                hMirrors.applied hClassical hKey
                  (hMirrors.testBit_mask_target hMask hDistinct
                    hKey)
              simp only [hMirrors.holds_iff_controlsSet hMask]
                at hNext
              exact .of_perform hFull hBits hNext

/- Both measure the bit of the target, or zero. -/
theorem measureAt
    (hMirrors : Mirrors full bits k)
    {basis : Pauli}
    (hClassical : basis = .z ∨ basis = .i)
    (position : Nat) :
    ∃ outcome full',
      (FullState.measureAt position basis).perform full =
          (.ok outcome, full') ∧
        Toffoli.outcomeIn (k.testBit position) basis =
          some outcome ∧
        Mirrors full' bits k := by
  rcases hClassical with rfl | rfl
  · refine ⟨full.nextOutcome position, full.collapsed position,
      FullState.perform_measureBit position full, ?_,
      hMirrors.collapsed position⟩
    rw [hMirrors.nextOutcome_eq]
    rfl
  · exact ⟨false, full, rfl, rfl, hMirrors⟩

theorem measure
    (hMirrors : Mirrors full bits k)
    {bases : List Pauli}
    (hClassical : ∀ basis ∈ bases, basis = .z ∨ basis = .i)
    (targets : List QubitId) :
    Mirrored (FullState.measure bases targets)
      (Toffoli.measure bases targets) full bits := by
  rcases singleMeasurement_cases full.name bits.name bases
      targets with
    ⟨⟨basis, target⟩, hFull, hBits⟩ | ⟨e, e', hFull, hBits, hSame⟩
  · cases hKey : full.qubits.get? target with
    | none =>
        have hRefused :=
          Toffoli.perform_measure_of_dead hBits
            (hMirrors.get?_eq_none hKey)
        rw [hMirrors.violation_eq] at hRefused
        exact .of_perform
          (FullState.perform_measure_of_dead hFull hKey)
          hRefused hMirrors
    | some position =>
        rcases
            hMirrors.measureAt
              (hClassical basis (mem_of_singleMeasurement hFull))
              position with
          ⟨outcome, full', hMeasured, hOutcome, hNext⟩
        have hAnswer :=
          Toffoli.perform_measure_of_live hBits
            (hMirrors.bit_eq target position hKey)
        rw [hOutcome] at hAnswer
        dsimp only at hAnswer
        rw [hNext.handOut_eq] at hAnswer
        exact .of_perform
          (FullState.perform_measure_of_live hFull hKey
            hMeasured)
          hAnswer (hNext.withResults _)
  · unfold Mirrored
    rw [FullState.perform_measure_of_shape hFull,
      Toffoli.perform_measure_of_shape hBits]
    exact ⟨congrArg Except.error hSame, k, hMirrors⟩

theorem areEqualResults_eq
    (hMirrors : Mirrors full bits k)
    (r₁ r₂ : ResultId) :
    bits.areEqualResults r₁ r₂ = full.areEqualResults r₁ r₂ := by
  unfold Toffoli.areEqualResults FullState.areEqualResults
  rw [hMirrors.tracked, hMirrors.value_eq, hMirrors.value_eq]

theorem releaseResult
    (hMirrors : Mirrors full bits k)
    (r : ResultId) :
    Mirrored (FullState.releaseResult r)
      (Toffoli.releaseResult r) full bits := by
  have hFull := FullState.perform_releaseResult r full
  have hBits := Toffoli.perform_releaseResult r bits
  have hMode :
      r.IsConstant ∨ bits.mode = .canonical ↔ r.IsConstant := by
    rw [hMirrors.tracked]
    simp
  rw [if_congr hMode rfl rfl, hMirrors.results_eq] at hBits
  by_cases hConstant : r.IsConstant
  · rw [if_pos hConstant] at hFull hBits
    exact .of_perform hFull hBits hMirrors
  · rw [if_neg hConstant] at hFull hBits
    cases hReleased :
        full.results.release r "release_result" with
    | error e =>
        rw [hReleased] at hFull hBits
        exact .of_perform hFull hBits hMirrors
    | ok released =>
        rcases released with ⟨bit, results⟩
        rw [hReleased] at hFull hBits
        exact .of_perform hFull hBits
          (hMirrors.withResults results)

------------------------------------------------------------
-- Steps and runs
------------------------------------------------------------

/- A classical request is mirrored. -/
theorem step
    (hMirrors : Mirrors full bits k)
    {request : Request ℝ}
    (hClassical : request.IsClassical)
    (hRoom :
      request = .allocateQubit →
        full.qubits.liveCount < full.maxQubits) :
    Mirrored request.run request.run full bits := by
  cases request with
  | allocateQubit =>
      exact (hMirrors.allocateQubit (hRoom rfl)).map _
  | releaseQubit q => exact (hMirrors.releaseQubit q).map _
  | apply g target =>
      exact (hMirrors.apply hClassical target).map _
  | applyControlled g controls target =>
      exact (hMirrors.applyControlled hClassical controls
        target).map _
  | measure bases targets =>
      exact (hMirrors.measure hClassical targets).map _
  | areEqualResults r₁ r₂ =>
      have hAnswer := hMirrors.areEqualResults_eq r₁ r₂
      exact (Mirrored.of_perform (Action.perform_query _ full)
        ((Action.perform_query _ bits).trans
          (congrArg (·, bits) hAnswer)) hMirrors).map _
  | releaseResult r => exact (hMirrors.releaseResult r).map _
  | resultValue r =>
      have hAnswer := hMirrors.value_eq "result_value" r
      exact (Mirrored.of_perform (Action.perform_query _ full)
        ((Action.perform_query _ bits).trans
          (congrArg (·, bits) hAnswer)) hMirrors).map _

/- A classical run is mirrored throughout. -/
theorem run
    (hMirrors : Mirrors full bits k)
    {requests : List (Request ℝ)}
    (hClassical : ∀ request ∈ requests, request.IsClassical)
    (hRoom : full.HasRoom requests) :
    (runRequests full requests).1.map anonymousAnswer =
        (runRequests bits requests).1.map anonymousAnswer ∧
      ∃ k', Mirrors (runRequests full requests).2
        (runRequests bits requests).2 k' := by
  induction requests generalizing full bits k with
  | nil => exact ⟨rfl, k, hMirrors⟩
  | cons request rest ih =>
      rcases List.forall_mem_cons.mp hClassical with
        ⟨hFirst, hRest⟩
      rcases
          hMirrors.step hFirst fun hAllocate =>
            hRoom [] rest (by rw [hAllocate]; rfl) with
        ⟨hAnswer, k', hNext⟩
      rcases ih hNext hRest hRoom.tail with ⟨hAnswers, hFinal⟩
      refine ⟨?_, hFinal⟩
      rw [runRequests_cons, runRequests_cons, List.map_cons,
        List.map_cons, hAnswer, hAnswers]

end Mirrors

/-
  On a classical program, the simulator of the full state and
  the simulator of bits give the same answers up to the name of
  the backend. After every part of the program, one amplitude is
  not zero, and its index has the bit of each live qubit at the
  position of the qubit.
-/
theorem classical_runs_agree
    {full : FullState ℝ}
    {bits : Toffoli ℝ}
    (hFull : full.Fresh)
    (hBits : bits.Fresh)
    (hTracked : bits.mode = .tracked)
    (hReuse : full.qubits.free = bits.qubits.free)
    (hDraws : ∀ n, 0 ≤ full.draws n ∧ full.draws n < 1)
    {requests : List (Request ℝ)}
    (hClassical : ∀ request ∈ requests, request.IsClassical)
    (hRoom : full.HasRoom requests) :
    (runRequests full requests).1.map anonymousAnswer =
        (runRequests bits requests).1.map anonymousAnswer ∧
      ∀ first rest, requests = first ++ rest →
        let full' := (runRequests full first).2
        let bits' := (runRequests bits first).2
        ∃ index,
          (∀ i, full'.state.amplitude i ≠ 0 ↔ i = index) ∧
          (∀ q position, full'.qubits.get? q = some position →
            bits'.qubits.get? q =
              some (index.testBit position)) ∧
          ∀ q, full'.qubits.Live q ↔ bits'.qubits.Live q := by
  have hStart :=
    Mirrors.start hFull.untouched hBits.untouched hTracked
      hReuse hDraws
  refine ⟨(hStart.run hClassical hRoom).1, ?_⟩
  rintro first rest rfl full' bits'
  rcases
      hStart.run
        (fun request hMem =>
          hClassical request (List.mem_append_left rest hMem))
        hRoom.left with
    ⟨-, index, hMirrors⟩
  refine ⟨index, hMirrors.basis.ne_zero_iff, hMirrors.bit_eq, ?_⟩
  intro q
  unfold HandleTable.Live
  rw [HandleTable.isSome_get?_of_shape_eq hMirrors.shape_eq]

/-
  A qubit that was flipped through a control keeps its bit when
  the control is released, and a second release is refused.
-/
theorem flipped_qubit_agrees :
    let full : FullState ℝ := .start fun _ => 0
    let bits : Toffoli ℝ := .start .tracked
    let requests : List (Request ℝ) :=
      [.allocateQubit, .allocateQubit, .apply .x ⟨0⟩,
        .applyControlled .y [⟨0⟩] ⟨1⟩, .releaseQubit ⟨0⟩,
        .measure [.z] [⟨1⟩], .resultValue ⟨2⟩,
        .releaseQubit ⟨0⟩]
    full.Fresh ∧ bits.Fresh ∧ full.HasRoom requests ∧
      (runRequests full requests).1.map anonymousAnswer =
        [.ok (.qubit ⟨0⟩), .ok (.qubit ⟨1⟩), .ok .done,
          .ok .done, .ok .done, .ok (.result ⟨2⟩),
          .ok (.bit true),
          .error (.contractViolation "release_qubit"
            (.qubit ⟨0⟩) .released)] := by
  intro full bits requests
  have hFull : full.Fresh := .start _
  have hBits : bits.Fresh := .start _
  have hRoom : full.HasRoom requests :=
    FullState.hasRoom_of_length_le (by decide)
  refine ⟨hFull, hBits, hRoom, ?_⟩
  refine (classical_runs_agree hFull hBits rfl rfl ?_ ?_
    hRoom).1.trans ?_
  · intro n
    exact ⟨le_refl _, zero_lt_one⟩
  · simp [requests, Request.IsClassical, Gate.IsBitFlip]
  · rfl

end QuantumRuntime

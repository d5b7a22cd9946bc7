import QuantumRuntime.Proofs.Simulator.Controls
import QuantumRuntime.Proofs.Simulator.Effects
import QuantumRuntime.Proofs.Simulator.Fresh

/-
  This file proves that the positions of live qubits are dense:
  they are the places of the qubits in the order of their
  allocation. Releasing a qubit closes the gap that it leaves,
  whatever slots of the handle table are empty or recycled.

  Key definitions include:
    * `allocationOrder`
    * `FullState.Dense`
    * `StateVector.Addressable`

  Key theorems include:
    * `FullState.Dense.step`
    * `FullState.Dense.run`
    * `FullState.positions_follow_allocation`
-/

namespace QuantumRuntime

------------------------------------------------------------
-- Indices
------------------------------------------------------------

/-
  A position is a shift within 64 bits, and the indices that
  are computed from it are indices of amplitudes: the partner
  of an index, and the place from which a removal copies.
-/
structure StateVector.Addressable
    {R : Type}
    (s : StateVector R)
    (position : Nat) : Prop where
  shift_lt :
    position < 64
  partner_lt :
    ∀ i, i < s.amplitudes.size →
      i ||| 2 ^ position < s.amplitudes.size
  source_lt :
    ∀ i, i < s.amplitudes.size / 2 →
      insertZeroBit position i < s.amplitudes.size

/- The positions of a state vector of at most 63 qubits. -/
theorem StateVector.addressable_of_lt
    {R : Type}
    (s : StateVector R)
    (hCount : s.qubitCount ≤ 63)
    {position : Nat}
    (hPosition : position < s.qubitCount) :
    s.Addressable position := by
  have hHalf :
      s.amplitudes.size / 2 = 2 ^ (s.qubitCount - 1) := by
    have hSome : ∃ n, s.qubitCount = n + 1 :=
      ⟨s.qubitCount - 1, by omega⟩
    rcases hSome with ⟨n, hn⟩
    rw [s.size_amplitudes, hn, Nat.add_sub_cancel]
    omega
  refine ⟨by omega, ?_, ?_⟩
  · intro i hIndex
    rw [s.size_amplitudes] at hIndex ⊢
    exact or_two_pow_lt hIndex hPosition
  · intro i hIndex
    rw [hHalf] at hIndex
    rw [s.size_amplitudes, insertZeroBit_eq_insertBit]
    exact insertBit_lt hPosition false hIndex

------------------------------------------------------------
-- The order of allocation
------------------------------------------------------------

section

variable {R : Type}

/-
  The live qubits, the longest allocated first, after one more
  request has been answered.
-/
def Request.reorder
    (order : List QubitId) :
    Request R → Except BackendError Reply → List QubitId
  | .allocateQubit, .ok (.qubit q) => order ++ [q]
  | .releaseQubit q, .ok _ => order.erase q
  | _, _ => order

/- A refused request changes no order. -/
@[simp] theorem Request.reorder_error
    (order : List QubitId)
    (request : Request R)
    (e : BackendError) :
    request.reorder order (.error e) = order := by
  cases request <;> rfl

/- The order after some requests have been answered in turn. -/
def reorderAll :
    List QubitId →
      List (Request R) → List (Except BackendError Reply) →
      List QubitId
  | order, request :: requests, answer :: answers =>
      reorderAll (request.reorder order answer) requests answers
  | order, _, _ => order

/- The live qubits of a run, the longest allocated first. -/
def allocationOrder
    (requests : List (Request R))
    (answers : List (Except BackendError Reply)) : List QubitId :=
  reorderAll [] requests answers

end

namespace FullState

variable {R : Type} [Scalar R]

------------------------------------------------------------
-- Dense positions
------------------------------------------------------------

/-
  The position of each live qubit is its place in an order of
  the live qubits, and the state vector holds that many qubits.
-/
structure Dense
    (sim : FullState R)
    (order : List QubitId) : Prop where
  coherent :
    sim.qubits.Coherent
  position_iff :
    ∀ q position,
      sim.qubits.get? q = some position ↔
        order[position]? = some q
  liveCount_eq :
    sim.qubits.liveCount = order.length
  qubitCount_eq :
    sim.state.qubitCount = order.length
  length_le :
    order.length ≤ sim.maxQubits
  ascending :
    sim.qubits.free = none →
      order.Pairwise fun q₁ q₂ => q₁.raw < q₂.raw

/- A simulator that is untouched has no qubits to order. -/
theorem Untouched.dense
    {sim : FullState R}
    (hSim : sim.Untouched) :
    sim.Dense [] := by
  rcases hSim.qubits_eq with ⟨recycle, hQubits⟩
  have hGet := HandleTable.get?_make
    (K := QubitId) (V := Nat) recycle 0
  rw [HandleTable.withBase_zero_make] at hGet
  refine ⟨?_, ?_, ?_, ?_, Nat.zero_le _, fun _ => List.Pairwise.nil⟩
  · rw [hQubits, ← HandleTable.withBase_zero_make]
    exact HandleTable.coherent_make recycle 0
  · intro q position
    rw [hQubits, hGet]
    simp
  · rw [hQubits]
    cases recycle <;> rfl
  · rw [hSim.state_eq]
    rfl

section

variable {sim sim' : FullState R} {order : List QubitId}

omit [Scalar R] in
/- The qubits in the order are the live ones. -/
theorem Dense.mem_iff
    (hDense : sim.Dense order)
    (q : QubitId) :
    q ∈ order ↔ sim.qubits.Live q := by
  rw [HandleTable.live_iff, List.mem_iff_getElem?]
  exact exists_congr fun position =>
    (hDense.position_iff q position).symm

omit [Scalar R] in
/- No qubit has two places. -/
theorem Dense.nodup
    (hDense : sim.Dense order) :
    order.Nodup := by
  rw [List.nodup_iff_getElem?_ne_getElem?]
  intro i j hLt hBound hSame
  have hPlace : order[j]? = some order[j] :=
    List.getElem?_eq_getElem hBound
  have hLater := (hDense.position_iff _ _).mpr hPlace
  have hEarlier := (hDense.position_iff _ _).mpr
    (hSame.trans hPlace)
  rw [hLater] at hEarlier
  cases hEarlier
  exact Nat.lt_irrefl _ hLt

omit [Scalar R] in
/- The state vector holds as many qubits as are live. -/
theorem Dense.qubitCount_eq_liveCount
    (hDense : sim.Dense order) :
    sim.state.qubitCount = sim.qubits.liveCount := by
  rw [hDense.qubitCount_eq, hDense.liveCount_eq]

omit [Scalar R] in
/- A position is below the number of qubits. -/
theorem Dense.position_lt
    (hDense : sim.Dense order)
    {q : QubitId}
    {position : Nat}
    (hLive : sim.qubits.get? q = some position) :
    position < sim.state.qubitCount := by
  rw [hDense.qubitCount_eq]
  exact (List.getElem?_eq_some_iff.mp
    ((hDense.position_iff _ _).mp hLive)).1

omit [Scalar R] in
/- Qubits at one position are equal. -/
theorem Dense.eq_of_position
    (hDense : sim.Dense order)
    {q r : QubitId}
    {position : Nat}
    (hFirst : sim.qubits.get? q = some position)
    (hSecond : sim.qubits.get? r = some position) :
    q = r := by
  rw [hDense.position_iff] at hFirst hSecond
  exact Option.some.inj (hFirst.symm.trans hSecond)

omit [Scalar R] in
/- What is not about qubits does not matter. -/
theorem Dense.of_same
    (hDense : sim.Dense order)
    (hQubits : sim'.qubits = sim.qubits)
    (hCount : sim'.state.qubitCount = sim.state.qubitCount)
    (hMax : sim'.maxQubits = sim.maxQubits) :
    sim'.Dense order :=
  { coherent := hQubits ▸ hDense.coherent
    position_iff := hQubits ▸ hDense.position_iff
    liveCount_eq := hQubits ▸ hDense.liveCount_eq
    qubitCount_eq := hCount ▸ hDense.qubitCount_eq
    length_le := hMax ▸ hDense.length_le
    ascending := hQubits ▸ hDense.ascending }

/- A new qubit comes last. -/
theorem Dense.allocated
    (hDense : sim.Dense order)
    (hRoom : sim.qubits.liveCount < sim.maxQubits) :
    sim.allocated.Dense (order ++ [sim.nextQubit]) := by
  have hNew :
      sim.qubits.get? sim.nextQubit = none :=
    hDense.coherent.get?_insert_fst _
  refine
    { coherent := hDense.coherent.insert _
      position_iff := ?_
      liveCount_eq := ?_
      qubitCount_eq := ?_
      length_le := ?_
      ascending := ?_ }
  · intro q position
    have hGet := hDense.coherent.get?_insert
      sim.state.qubitCount q
    have hOld := hDense.position_iff q position
    rw [show sim.allocated.qubits.get? q = _ from hGet]
    change (if q = sim.nextQubit then _ else _) = _ ↔ _
    by_cases hKey : q = sim.nextQubit
    · rw [hKey, hNew] at hOld
      rw [if_pos hKey, hKey, hDense.qubitCount_eq,
        List.getElem?_append]
      by_cases hPlace : position < order.length
      · rw [if_pos hPlace, ← hOld]
        simp
        omega
      · rw [if_neg hPlace, List.getElem?_singleton]
        simp
        omega
    · rw [if_neg hKey, hOld, List.getElem?_append]
      by_cases hPlace : position < order.length
      · rw [if_pos hPlace]
      · rw [if_neg hPlace, List.getElem?_singleton,
          List.getElem?_eq_none (Nat.le_of_not_lt hPlace)]
        simp [Ne.symm hKey]
  · have hCount := HandleTable.liveCount_insert (K := QubitId)
      sim.qubits sim.state.qubitCount
    rw [List.length_append, ← hDense.liveCount_eq]
    exact hCount
  · rw [List.length_append, ← hDense.qubitCount_eq]
    rfl
  · rw [List.length_append, ← hDense.liveCount_eq]
    exact hRoom
  · intro hFree
    have hNone : sim.qubits.free = none := by
      have hSome := HandleTable.isSome_free_insert
        (K := QubitId) sim.qubits sim.state.qubitCount
      rw [show (sim.qubits.insert sim.state.qubitCount :
          QubitId × HandleTable QubitId Nat).2.free = none
        from hFree] at hSome
      simpa using hSome
    rw [List.pairwise_append]
    refine ⟨hDense.ascending hNone, List.pairwise_singleton _ _, ?_⟩
    intro q hMem r hLast
    rw [List.mem_singleton] at hLast
    subst hLast
    rw [hDense.mem_iff, HandleTable.live_iff] at hMem
    rcases hMem with ⟨position, hLive⟩
    exact HandleTable.raw_lt_insert_fst _ hNone _
      (HandleTable.issued_of_get?_eq_some _ hLive)

/- The qubits after a released one move up by one place. -/
theorem Dense.released
    (hDense : sim.Dense order)
    {q : QubitId}
    {removed : Nat}
    (hLive : sim.qubits.get? q = some removed) :
    (sim.released q removed).Dense (order.erase q) := by
  have hPlace := (hDense.position_iff q removed).mp hLive
  rcases List.getElem?_eq_some_iff.mp hPlace with ⟨hBound, hAt⟩
  have hErase : order.erase q = order.eraseIdx removed := by
    rw [← hAt]
    exact hDense.nodup.erase_getElem removed hBound
  have hLength :
      (order.erase q).length = order.length - 1 := by
    rw [hErase, List.length_eraseIdx_of_lt hBound]
  refine
    { coherent := ?_
      position_iff := ?_
      liveCount_eq := ?_
      qubitCount_eq := ?_
      length_le := ?_
      ascending := ?_ }
  · exact HandleTable.coherent_of_shape_eq
      (HandleTable.shape_updateLive _ _)
      (hDense.coherent.without hLive)
  · intro r position
    rw [get?_qubits_released hLive, hErase,
      List.getElem?_eraseIdx]
    by_cases hKey : r = q
    · -- The released qubit has no place left.
      subst hKey
      have hBelow := hDense.position_iff r position
      have hAbove := hDense.position_iff r (position + 1)
      rw [hLive] at hBelow hAbove
      rw [if_pos rfl]
      split
      · rw [← hBelow]
        simp
        omega
      · rw [← hAbove]
        simp
        omega
    · -- The other qubits close the gap.
      rw [if_neg hKey]
      have hBelow := hDense.position_iff r position
      have hAbove := hDense.position_iff r (position + 1)
      cases hGet : sim.qubits.get? r with
      | none =>
          rw [hGet] at hBelow hAbove
          split
          · rw [← hBelow]
            simp
          · rw [← hAbove]
            simp
      | some old =>
          have hOther : old ≠ removed := by
            rintro rfl
            exact hKey (hDense.eq_of_position hGet hLive)
          rw [hGet] at hBelow hAbove
          rw [Option.map_some]
          unfold lowerAbove
          by_cases hPlaceBelow : position < removed
          · rw [if_pos hPlaceBelow, ← hBelow, Option.some.injEq,
              Option.some.injEq]
            split <;> omega
          · rw [if_neg hPlaceBelow, ← hAbove, Option.some.injEq,
              Option.some.injEq]
            split <;> omega
  · rw [hLength, ← hDense.liveCount_eq]
    rfl
  · rw [hLength, ← hDense.qubitCount_eq]
    exact qubitCount_compacted removed sim
  · have hLe := hDense.length_le
    rw [hLength]
    exact Nat.le_trans (Nat.sub_le _ _) hLe
  · intro hFree
    have hNone : sim.qubits.free = none :=
      Option.map_eq_none_iff.mp hFree
    exact (hDense.ascending hNone).sublist List.erase_sublist

------------------------------------------------------------
-- Runs
------------------------------------------------------------

/- Each request keeps the positions dense. -/
theorem Dense.step
    {request : Request R}
    {answer : Except BackendError Reply}
    (hDense : sim.Dense order)
    (hEffect : sim.Effect request answer sim') :
    sim'.Dense (request.reorder order answer) := by
  cases hEffect with
  | refused e =>
      rw [Request.reorder_error]
      exact hDense
  | allocated hRoom => exact hDense.allocated hRoom
  | released q position hLive => exact hDense.released hLive
  | applied g target position hLive =>
      exact hDense.of_same rfl (by simp [FullState.applied]) rfl
  | controlled g controls target mask position =>
      exact hDense.of_same rfl (by simp [FullState.applied]) rfl
  | measured bases targets basis target position bit state
      hSingle hLive hMeasured hCount =>
      exact hDense.of_same rfl hCount rfl
  | compared r₁ r₂ bit₁ bit₂ => exact hDense
  | read r bit => exact hDense
  | constantKept r => exact hDense
  | resultReleased r bit => exact hDense.of_same rfl rfl rfl

/- Every run keeps the positions dense. -/
theorem Dense.run
    (hDense : sim.Dense order)
    (requests : List (Request R)) :
    (runRequests sim requests).2.Dense
      (reorderAll order requests
        (runRequests sim requests).1) := by
  induction requests generalizing sim order with
  | nil => exact hDense
  | cons request rest ih =>
      exact ih (hDense.step (sim.effect request))

end

/- What no request changes. -/
structure SameSettings
    (sim sim' : FullState R) : Prop where
  name_eq :
    sim'.name = sim.name
  draws_eq :
    sim'.draws = sim.draws
  maxQubits_eq :
    sim'.maxQubits = sim.maxQubits
  recycles_eq :
    sim'.qubits.free.isSome = sim.qubits.free.isSome

/- No request changes the settings. -/
theorem Effect.sameSettings
    {sim sim' : FullState R}
    {request : Request R}
    {answer : Except BackendError Reply}
    (hEffect : sim.Effect request answer sim') :
    sim.SameSettings sim' := by
  cases hEffect with
  | allocated hRoom =>
      exact ⟨rfl, rfl, rfl,
        HandleTable.isSome_free_insert (K := QubitId) _ _⟩
  | released q position hLive =>
      exact ⟨rfl, rfl, rfl,
        HandleTable.isSome_free_without sim.qubits q⟩
  | _ => exact ⟨rfl, rfl, rfl, rfl⟩

/- No run changes the settings. -/
theorem sameSettings_run
    (sim : FullState R)
    (requests : List (Request R)) :
    sim.SameSettings (runRequests sim requests).2 := by
  induction requests generalizing sim with
  | nil => exact ⟨rfl, rfl, rfl, rfl⟩
  | cons request rest ih =>
      have hStep := (sim.effect request).sameSettings
      have hRest := ih (request.run.perform sim).2
      exact
        ⟨hRest.name_eq.trans hStep.name_eq,
          hRest.draws_eq.trans hStep.draws_eq,
          hRest.maxQubits_eq.trans hStep.maxQubits_eq,
          hRest.recycles_eq.trans hStep.recycles_eq⟩

------------------------------------------------------------
-- Positions and raw values
------------------------------------------------------------

/-
  In a list of qubits with ascending raw values, the place of a
  qubit is the number of qubits with smaller raw values.
-/
private theorem countP_raw_lt
    {order : List QubitId}
    (hAscending :
      order.Pairwise fun q₁ q₂ => q₁.raw < q₂.raw)
    {position : Nat}
    {q : QubitId}
    (hPlace : order[position]? = some q) :
    order.countP (fun r => r.raw < q.raw) = position := by
  induction order generalizing position with
  | nil => simp at hPlace
  | cons first rest ih =>
      rcases List.pairwise_cons.mp hAscending with ⟨hFirst, hRest⟩
      cases position with
      | zero =>
          have hSame : first = q := by simpa using hPlace
          subst hSame
          rw [List.countP_eq_zero]
          intro r hMem
          rcases List.mem_cons.mp hMem with rfl | hLater
          · simp
          · have hLess := hFirst r hLater
            simp
            omega
      | succ position =>
          rw [List.getElem?_cons_succ] at hPlace
          have hLess := hFirst q (List.mem_of_getElem? hPlace)
          rw [List.countP_cons, ih hRest hPlace]
          simp [hLess]

omit [Scalar R] in
/-
  Without recycling, the position of a live qubit is the number
  of live qubits with smaller raw values.
-/
theorem Dense.position_eq_countP
    {sim : FullState R}
    {order : List QubitId}
    (hDense : sim.Dense order)
    (hFree : sim.qubits.free = none)
    {q : QubitId}
    {position : Nat}
    (hLive : sim.qubits.get? q = some position) :
    position =
      sim.qubits.liveHandles.countP
        (fun r : QubitId => r.raw < q.raw) := by
  have hListed : sim.qubits.liveHandles.Nodup (α := QubitId) := by
    refine (sim.qubits.pairwise_liveHandles).imp ?_
    rintro r s hLess rfl
    exact Nat.lt_irrefl _ hLess
  have hPerm : sim.qubits.liveHandles.Perm order := by
    rw [List.perm_ext_iff_of_nodup hListed hDense.nodup]
    intro r
    rw [HandleTable.mem_liveHandles_iff, hDense.mem_iff]
  rw [hPerm.countP_eq]
  exact (countP_raw_lt (hDense.ascending hFree)
    ((hDense.position_iff q position).mp hLive)).symm

omit [Scalar R] in
/- The mask of some controls is below the number of amplitudes. -/
theorem Dense.controlMask_lt
    {sim : FullState R}
    {order : List QubitId}
    (hDense : sim.Dense order)
    {controls : List QubitId}
    {mask : Nat}
    (hMask : controlMask sim.qubits controls = .ok mask) :
    mask < sim.state.amplitudes.size := by
  rw [sim.state.size_amplitudes]
  apply Nat.lt_pow_two_of_testBit
  intro k hk
  by_contra hSet
  rw [Bool.not_eq_false, testBit_controlMask hMask] at hSet
  rcases hSet with ⟨c, _, hLive⟩
  exact Nat.not_lt.mpr hk (hDense.position_lt hLive)

------------------------------------------------------------
-- Positions along runs
------------------------------------------------------------

/-
  After any requests, refused or not, the simulator holds
  `2 ^ n` amplitudes for its `n` live qubits, and these are at
  the positions below `n`, each at its place in the order of
  allocation. So every index that is computed from a position
  is within bounds.
-/
theorem positions_follow_allocation
    {sim : FullState R}
    (hFresh : sim.Fresh)
    (requests : List (Request R)) :
    let answers := (runRequests sim requests).1
    let after := (runRequests sim requests).2
    let order := allocationOrder requests answers
    let n := after.qubits.liveCount
    after.state.amplitudes.size = 2 ^ n ∧
      after.state.qubitCount = n ∧
      n ≤ sim.maxQubits ∧
      after.maxQubits = sim.maxQubits ∧
      sim.maxQubits ≤ 63 ∧
      (∀ q position, after.qubits.get? q = some position →
        position < n) ∧
      (∀ position, position < n →
        ∃! q, after.qubits.get? q = some position) ∧
      (∀ q position, after.qubits.get? q = some position ↔
        order[position]? = some q) ∧
      (sim.qubits.free = none →
        ∀ q position, after.qubits.get? q = some position →
          position =
            after.qubits.liveHandles.countP
              fun r : QubitId => r.raw < q.raw) ∧
      (∀ q position, after.qubits.get? q = some position →
        after.state.Addressable position) ∧
      ∀ controls mask,
        controlMask after.qubits controls = .ok mask →
          mask < after.state.amplitudes.size := by
  intro answers after order n
  have hDense : after.Dense order :=
    hFresh.untouched.dense.run requests
  have hSettings : sim.SameSettings after :=
    sim.sameSettings_run requests
  have hMax := hFresh.untouched.maxQubits_le
  have hCount : after.state.qubitCount = n :=
    hDense.qubitCount_eq_liveCount
  have hLe : n ≤ sim.maxQubits := by
    rw [← hSettings.maxQubits_eq, show n = order.length
      from hDense.liveCount_eq]
    exact hDense.length_le
  have hBound :
      ∀ q position, after.qubits.get? q = some position →
        position < n := by
    intro q position hLive
    rw [← hCount]
    exact hDense.position_lt hLive
  refine ⟨?_, hCount, hLe, hSettings.maxQubits_eq, hMax, hBound,
    ?_, hDense.position_iff, ?_, ?_, ?_⟩
  · rw [after.state.size_amplitudes, hCount]
  · intro position hPosition
    have hPlace : position < order.length := by
      rw [← hDense.liveCount_eq]
      exact hPosition
    refine ⟨order[position],
      (hDense.position_iff _ _).mpr
        (List.getElem?_eq_getElem hPlace), ?_⟩
    intro r hLive
    rw [hDense.position_iff, List.getElem?_eq_getElem hPlace]
      at hLive
    exact (Option.some.inj hLive).symm
  · intro hFree q position hLive
    have hStill : after.qubits.free = none := by
      have hRecycles := hSettings.recycles_eq
      rw [hFree] at hRecycles
      simpa using hRecycles
    exact hDense.position_eq_countP hStill hLive
  · intro q position hLive
    exact after.state.addressable_of_lt
      (hCount ▸ Nat.le_trans hLe hMax)
      (hDense.position_lt hLive)
  · intro controls mask hMask
    exact hDense.controlMask_lt hMask

/-
  Two qubits fit under a limit of two, the third is refused,
  and the second stays at position one.
-/
theorem second_qubit_follows_first :
    let sim : FullState Float :=
      (start fun _ => 0.5).withQubitReuse.withMaxQubits 2
    let requests : List (Request Float) :=
      [.allocateQubit, .allocateQubit, .allocateQubit,
        .applyControlled .x [⟨0⟩] ⟨1⟩]
    let after := (runRequests sim requests).2
    sim.Fresh ∧
      after.state.amplitudes.size = 4 ∧
      after.qubits.get? ⟨1⟩ = some 1 ∧
      after.state.Addressable 1 := by
  intro sim requests after
  have hFresh : sim.Fresh :=
    .withMaxQubits 2 _ (.withQubitReuse _ (.start fun _ => 0.5))
  rcases positions_follow_allocation hFresh requests with
    ⟨hSize, -, -, -, -, -, -, hPlace, -, hIndices, -⟩
  have hSecond : after.qubits.get? ⟨1⟩ = some 1 :=
    (hPlace ⟨1⟩ 1).mpr rfl
  exact ⟨hFresh, hSize, hSecond, hIndices _ _ hSecond⟩

end FullState

end QuantumRuntime

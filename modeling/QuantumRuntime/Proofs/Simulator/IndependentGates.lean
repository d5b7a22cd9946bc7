import QuantumRuntime.Proofs.Simulator.Acceptance
import QuantumRuntime.Proofs.Simulator.Counting
import QuantumRuntime.Proofs.Simulator.GateCalls
import QuantumRuntime.Proofs.Simulator.UnitaryGates

/-
  This file proves that two calls that name no common qubit can
  be made in either order. On the state vector the two gates act
  on pairs at different positions, so the four amplitudes that
  differ in the two targets alone are changed row by row and
  column by column; the laws of a ring make the order of the two
  irrelevant. The other simulators use no arithmetic.

  Key definitions include:
    * `StateVector.Interchange`

  Key theorems include:
    * `StateVector.gateAction_interchange`
    * `StateVector.applyGate_comm`
    * `Toffoli.gated_comm`
    * `Tracer.gated_comm`
    * `Builtin.independent_calls_commute`
-/

namespace QuantumRuntime

------------------------------------------------------------
-- State vectors
------------------------------------------------------------

namespace StateVector

variable {R : Type}

/-
  Two actions can be interchanged when they have the same effect
  on four amplitudes in two rows, whether the rows or the columns
  are changed first.
-/
def Interchange
    (f f' :
      Amplitude R → Amplitude R → Amplitude R × Amplitude R) :
    Prop :=
  ∀ (bit bit' : Bool) (a b c d : Amplitude R),
    side bit' (f' (side bit (f a c)) (side bit (f b d))) =
      side bit (f (side bit' (f' a b)) (side bit' (f' c d)))

/-
  An index that differs at another target holds the mask of a
  call whose controls leave that target out.
-/
theorem holds_putBit_putBit_iff
    {mask target other : Nat}
    (hOther : target ≠ other)
    (hOutside : mask.testBit other = false)
    (bit : Bool)
    (i : Nat) :
    Holds mask (putBit target false (putBit other bit i)) ↔
      Holds mask (putBit target false i) := by
  rw [putBit_comm hOther]
  exact holds_putBit_iff hOutside bit _

variable
  {f f' : Amplitude R → Amplitude R → Amplitude R × Amplitude R}
  {mask mask' target target' : Nat}

/- The image of a pair at another target, where the mask is held. -/
theorem pairAt_pairImage_of_ne
    (hOther : target ≠ target')
    (hOutside : mask.testBit target' = false)
    (old : Nat → Amplitude R)
    (i : Nat) :
    pairAt target' (pairImage f mask target old) i =
      if Holds mask (putBit target false i) then
        (side (i.testBit target)
          (f (old (putBit target' false (putBit target false i)))
            (old (putBit target' false (putBit target true i)))),
          side (i.testBit target)
            (f (old (putBit target' true (putBit target false i)))
              (old
                (putBit target' true (putBit target true i)))))
      else
        pairAt target' old i := by
  have hBit (bit : Bool) :
      (putBit target' bit i).testBit target =
        i.testBit target := by
    rw [testBit_putBit, if_neg hOther]
  unfold pairAt
  rw [pairImage_eq, pairImage_eq, hBit, hBit]
  simp only [holds_putBit_putBit_iff hOther hOutside]
  simp only [pairAt, putBit_comm hOther]
  split <;> rfl

/-
  Actions that can be interchanged commute at targets that are
  different and that neither mask has. Each mask is held before
  the other action if and only if it is held after it.
-/
theorem pairImage_comm
    (hInterchange : Interchange f f')
    (hOther : target ≠ target')
    (hOutside : mask.testBit target' = false)
    (hOutside' : mask'.testBit target = false)
    (old : Nat → Amplitude R)
    (i : Nat) :
    pairImage f' mask' target' (pairImage f mask target old) i =
      pairImage f mask target
        (pairImage f' mask' target' old) i := by
  rw [pairImage_eq f' mask' target' (pairImage f mask target old),
    pairImage_eq f mask target (pairImage f' mask' target' old),
    pairAt_pairImage_of_ne hOther hOutside,
    pairAt_pairImage_of_ne hOther.symm hOutside']
  by_cases hHolds : Holds mask (putBit target false i)
  · by_cases hHolds' : Holds mask' (putBit target' false i)
    · simp only [if_pos hHolds, if_pos hHolds',
        putBit_comm hOther.symm]
      exact hInterchange _ _ _ _ _ _
    · rw [if_neg hHolds', if_neg hHolds', pairImage_eq,
        if_pos hHolds, if_pos hHolds]
  · by_cases hHolds' : Holds mask' (putBit target' false i)
    · rw [if_neg hHolds, if_neg hHolds, if_pos hHolds',
        pairImage_eq, if_pos hHolds']
    · simp only [pairImage_eq, if_neg hHolds, if_neg hHolds']

variable [Scalar R]

/- Any two gates can be interchanged where the laws of a ring hold. -/
theorem gateAction_interchange
    (hLaws : Amplitude.RingLaws R)
    (g g' : Gate R) :
    Interchange (gateAction g) (gateAction g') := by
  intro bit bit' a b c d
  let := hLaws.commRing
  simp only [gateAction_eq_act hLaws, GateMatrix.act]
  cases bit <;> cases bit' <;>
    simp only [side_false, side_true] <;> ring

/-
  Gates on different targets commute if neither target is among
  the controls of the other gate.
-/
theorem applyGate_comm
    (hLaws : Amplitude.RingLaws R)
    (g g' : Gate R)
    (hOther : target ≠ target')
    (hOutside : mask.testBit target' = false)
    (hOutside' : mask'.testBit target = false)
    (s : StateVector R)
    (hTarget : target < s.qubitCount)
    (hTarget' : target' < s.qubitCount) :
    (s.applyGate g mask target).applyGate g' mask' target' =
      (s.applyGate g' mask' target').applyGate g mask target := by
  apply ext_amplitude
  · simp
  · intro i hIndex
    rw [qubitCount_applyGate, qubitCount_applyGate] at hIndex
    rw [amplitude_applyGate_applyGate g g' _ _ s hTarget hTarget'
        hIndex,
      amplitude_applyGate_applyGate g' g _ _ s hTarget' hTarget
        hIndex]
    exact pairImage_comm (gateAction_interchange hLaws g g')
      hOther hOutside hOutside' s.amplitude i

end StateVector

------------------------------------------------------------
-- Independent calls
------------------------------------------------------------

namespace GateCall

variable {R : Type} {first second : GateCall R}

/- The target of a call is not named by an independent one. -/
theorem target_ne_of_disjoint
    (hDisjoint : first.qubits.Disjoint second.qubits) :
    first.target ≠ second.target := by
  intro hSame
  apply hDisjoint (a := first.target) List.mem_cons_self
  rw [hSame]
  exact List.mem_cons_self

theorem target_not_mem_of_disjoint
    (hDisjoint : first.qubits.Disjoint second.qubits) :
    first.target ∉ second.controls :=
  fun hMem =>
    hDisjoint List.mem_cons_self (List.mem_cons_of_mem _ hMem)

end GateCall

section

variable {R β : Type} [Scalar R] [Backend R β]

/- Two calls are accepted and lead to the same state in either order. -/
def CommuteAt
    (b : β)
    (first second : GateCall R) : Prop :=
  ∃ after,
    runRequests b [first.request, second.request] =
        ([.ok .done, .ok .done], after) ∧
      runRequests b [second.request, first.request] =
        ([.ok .done, .ok .done], after)

/- Two calls that are each accepted at both places. -/
theorem CommuteAt.of_perform
    {b b₁ b₂ after : β}
    {first second : GateCall R}
    (hFirst : first.request.run.perform b = (.ok .done, b₁))
    (hSecond : second.request.run.perform b = (.ok .done, b₂))
    (hSecondNext :
      second.request.run.perform b₁ = (.ok .done, after))
    (hFirstNext :
      first.request.run.perform b₂ = (.ok .done, after)) :
    CommuteAt b first second := by
  refine ⟨after, ?_, ?_⟩
  · simp only [runRequests_cons, runRequests_nil, hFirst,
      hSecondNext]
  · simp only [runRequests_cons, runRequests_nil, hSecond,
      hFirstNext]

end

------------------------------------------------------------
-- The simulator of the full state
------------------------------------------------------------

namespace FullState

variable {R : Type} [Scalar R]
variable {sim : FullState R} {first second : GateCall R}

/- Independent calls commute where positions are dense. -/
theorem commuteAt_of_disjoint
    (hLaws : Amplitude.RingLaws R)
    {order : List QubitId}
    (hDense : sim.Dense order)
    (hFirst : (first.request.run.perform sim).1 = .ok .done)
    (hSecond : (second.request.run.perform sim).1 = .ok .done)
    (hDisjoint : first.qubits.Disjoint second.qubits) :
    CommuteAt sim first second := by
  rcases exists_takes hFirst with ⟨mask, position, hTakes⟩
  rcases exists_takes hSecond with ⟨mask', position', hTakes'⟩
  have hOther : position ≠ position' := by
    rintro rfl
    exact GateCall.target_ne_of_disjoint hDisjoint
      (hDense.eq_of_position hTakes.target_live
        hTakes'.target_live)
  have hNext :
      (sim.applied first.gate mask position).Takes second mask'
        position' :=
    ⟨hTakes'.target_live, hTakes'.mask_eq, hTakes'.distinct⟩
  have hNext' :
      (sim.applied second.gate mask' position').Takes first mask
        position :=
    ⟨hTakes.target_live, hTakes.mask_eq, hTakes.distinct⟩
  apply CommuteAt.of_perform hTakes.perform_run
    hTakes'.perform_run hNext.perform_run
  rw [hNext'.perform_run]
  unfold applied
  dsimp only
  rw [StateVector.applyGate_comm hLaws first.gate second.gate
    hOther
    (hTakes.testBit_mask hDense hTakes'.target_live
      (GateCall.target_not_mem_of_disjoint hDisjoint.symm))
    (hTakes'.testBit_mask hDense hTakes.target_live
      (GateCall.target_not_mem_of_disjoint hDisjoint))
    sim.state (hDense.position_lt hTakes.target_live)
    (hDense.position_lt hTakes'.target_live)]

end FullState

------------------------------------------------------------
-- The simulator of bits
------------------------------------------------------------

namespace Toffoli

variable {R : Type}
variable {sim : Toffoli R} {first second : GateCall R}
variable {bit bit' : Bool}

/- What a call takes is left by an independent one. -/
theorem Takes.after_gated
    (hTakes : sim.Takes first bit)
    (hTakes' : sim.Takes second bit')
    (hDisjoint : first.qubits.Disjoint second.qubits) :
    (sim.gated first bit).Takes second bit' where
  target_live :=
    (get?_gated_of_ne hTakes
        (GateCall.target_ne_of_disjoint hDisjoint).symm).trans
      hTakes'.target_live
  controls_live :=
    (HandleTable.checkLive_eq_of_shape_eq (shape_gated hTakes)
        _ _).trans
      hTakes'.controls_live
  distinct := hTakes'.distinct
  supported := hTakes'.supported

/- Independent calls leave the same bits in either order. -/
theorem gated_comm
    (hTakes : sim.Takes first bit)
    (hTakes' : sim.Takes second bit')
    (hDisjoint : first.qubits.Disjoint second.qubits) :
    (sim.gated first bit).gated second bit' =
      (sim.gated second bit').gated first bit := by
  have hIssued :=
    HandleTable.issued_of_get?_eq_some _ hTakes.target_live
  have hIssued' :=
    HandleTable.issued_of_get?_eq_some _ hTakes'.target_live
  have hNext := flips_gated_iff hTakes
    (GateCall.target_not_mem_of_disjoint hDisjoint)
  have hNext' := flips_gated_iff hTakes'
    (GateCall.target_not_mem_of_disjoint hDisjoint.symm)
  by_cases hFlips : sim.Flips first
  · by_cases hFlips' : sim.Flips second
    · rw [gated_of_flips (hNext.mpr hFlips'),
        gated_of_flips (hNext'.mpr hFlips),
        gated_of_flips hFlips, gated_of_flips hFlips']
      dsimp only
      rw [HandleTable.overwrite_comm hIssued hIssued'
        (GateCall.target_ne_of_disjoint hDisjoint)]
    · rw [gated_of_not_flips (mt hNext.mp hFlips'),
        gated_of_not_flips hFlips']
  · rw [gated_of_not_flips (mt hNext'.mp hFlips),
      gated_of_not_flips hFlips]

/- Independent calls commute. -/
theorem commuteAt_of_disjoint
    [Scalar R]
    (hFirst : (first.request.run.perform sim).1 = .ok .done)
    (hSecond : (second.request.run.perform sim).1 = .ok .done)
    (hDisjoint : first.qubits.Disjoint second.qubits) :
    CommuteAt sim first second := by
  rcases exists_takes hFirst with ⟨bit, hTakes⟩
  rcases exists_takes hSecond with ⟨bit', hTakes'⟩
  apply CommuteAt.of_perform hTakes.perform_run
    hTakes'.perform_run
    (hTakes.after_gated hTakes' hDisjoint).perform_run
  rw [(hTakes'.after_gated hTakes hDisjoint.symm).perform_run,
    gated_comm hTakes hTakes' hDisjoint]

end Toffoli

------------------------------------------------------------
-- The tracer
------------------------------------------------------------

namespace Tracer

variable {R : Type}
variable {tracer : Tracer R} {first second : GateCall R}
variable {layer layer' : Nat}

/- All qubits that a call names are live. -/
theorem Takes.live
    (hTakes : tracer.Takes first layer) :
    ∀ q ∈ first.controls ++ [first.target],
      tracer.qubits.Live q := by
  intro q hMem
  rcases List.mem_append.mp hMem with hControl | hTarget
  · exact hTakes.controls_live q hControl
  · rw [List.mem_singleton.mp hTarget]
    exact (tracer.qubits.live_iff _).mpr
      ⟨layer, hTakes.target_live⟩

@[simp] theorem qubits_counted
    (call : GateCall R)
    (tracer : Tracer R) :
    (tracer.counted call).qubits = tracer.qubits := by
  cases call <;> rfl

/- A call moves no qubit that it does not name. -/
theorem get?_gated_of_not_mem
    (hTakes : tracer.Takes first layer)
    {q : QubitId}
    (hOutside : q ∉ first.qubits) :
    (tracer.gated first layer).qubits.get? q =
      tracer.qubits.get? q := by
  have hOther : q ∉ first.controls ++ [first.target] := by
    simpa [GateCall.qubits, and_comm] using hOutside
  rw [gated, qubits_counted]
  exact (HandleTable.get?_overwriteAll hTakes.live _ q).trans
    (if_neg hOther)

/- The last layer is that of the qubits that are looked at. -/
theorem latestLayer_congr
    {qubits qubits' : HandleTable QubitId Nat}
    {controls : List QubitId}
    (hSame : ∀ c ∈ controls, qubits'.get? c = qubits.get? c)
    (layer : Nat) :
    latestLayer qubits' layer controls =
      latestLayer qubits layer controls := by
  unfold latestLayer
  apply List.foldl_ext
  intro last c hMem
  rw [hSame c hMem]

/- What a call takes is left by an independent one. -/
theorem Takes.after_gated
    (hTakes : tracer.Takes first layer)
    (hTakes' : tracer.Takes second layer')
    (hDisjoint : first.qubits.Disjoint second.qubits) :
    (tracer.gated first layer).Takes second layer' where
  target_live := by
    rw [get?_gated_of_not_mem hTakes
      (hDisjoint.symm List.mem_cons_self)]
    exact hTakes'.target_live
  controls_live := by
    intro c hMem
    unfold HandleTable.Live
    rw [get?_gated_of_not_mem hTakes
      (hDisjoint.symm (List.mem_cons_of_mem _ hMem))]
    exact hTakes'.controls_live c hMem
  distinct := hTakes'.distinct

/- The layer of a call is not changed by an independent one. -/
theorem layerOf_gated
    (hTakes : tracer.Takes first layer)
    (hDisjoint : first.qubits.Disjoint second.qubits)
    (layer' : Nat) :
    (tracer.gated first layer).layerOf second layer' =
      tracer.layerOf second layer' := by
  unfold layerOf
  rw [latestLayer_congr]
  intro c hMem
  exact get?_gated_of_not_mem hTakes
    (hDisjoint.symm (List.mem_cons_of_mem _ hMem))

/- Counting a call does not depend on where qubits are moved. -/
theorem moved_counted
    (call : GateCall R)
    (qs : List QubitId)
    (layer : Nat)
    (tracer : Tracer R) :
    (tracer.counted call).moved qs layer =
      (tracer.moved qs layer).counted call := by
  cases call <;> rfl

/- Calls can be counted in either order. -/
theorem counted_comm
    (first second : GateCall R)
    (tracer : Tracer R) :
    (tracer.counted first).counted second =
      (tracer.counted second).counted first := by
  cases first <;> cases second <;>
    simp only [counted, gateCounted, controlledCounted,
      Counts.increment_comm]

/- Lists without a common qubit can be moved in either order. -/
theorem moved_comm
    {qs qs' : List QubitId}
    (hLive : ∀ q ∈ qs, tracer.qubits.Live q)
    (hLive' : ∀ q ∈ qs', tracer.qubits.Live q)
    (hDisjoint : qs.Disjoint qs')
    (layer layer' : Nat) :
    (tracer.moved qs layer).moved qs' layer' =
      (tracer.moved qs' layer').moved qs layer := by
  have hIssued {keys : List QubitId}
      (hKeys : ∀ q ∈ keys, tracer.qubits.Live q) :
      ∀ q ∈ keys, tracer.qubits.Issued q := by
    intro q hMem
    rcases (tracer.qubits.live_iff q).mp (hKeys q hMem) with
      ⟨old, hOld⟩
    exact HandleTable.issued_of_get?_eq_some _ hOld
  unfold moved
  dsimp only
  rw [HandleTable.overwriteAll_comm (hIssued hLive)
    (hIssued hLive') hDisjoint, max_right_comm]

/- Independent calls leave the same tracer in either order. -/
theorem gated_comm
    (hTakes : tracer.Takes first layer)
    (hTakes' : tracer.Takes second layer')
    (hDisjoint : first.qubits.Disjoint second.qubits) :
    (tracer.gated first layer).gated second layer' =
      (tracer.gated second layer').gated first layer := by
  have hQubits :
      (first.controls ++ [first.target]).Disjoint
        (second.controls ++ [second.target]) := by
    intro q hMem hMem'
    exact hDisjoint (by simpa [GateCall.qubits, or_comm] using hMem)
      (by simpa [GateCall.qubits, or_comm] using hMem')
  have hLayer := layerOf_gated hTakes hDisjoint layer'
  have hLayer' := layerOf_gated hTakes' hDisjoint.symm layer
  rw [gated, hLayer, gated, moved_counted, counted_comm,
    moved_comm hTakes.live hTakes'.live hQubits, ← moved_counted,
    ← hLayer']
  rfl

/- Independent calls commute. -/
theorem commuteAt_of_disjoint
    [Scalar R]
    (hFirst : (first.request.run.perform tracer).1 = .ok .done)
    (hSecond : (second.request.run.perform tracer).1 = .ok .done)
    (hDisjoint : first.qubits.Disjoint second.qubits) :
    CommuteAt tracer first second := by
  rcases exists_takes hFirst with ⟨layer, hTakes⟩
  rcases exists_takes hSecond with ⟨layer', hTakes'⟩
  apply CommuteAt.of_perform hTakes.perform_run
    hTakes'.perform_run
    (hTakes.after_gated hTakes' hDisjoint).perform_run
  rw [(hTakes'.after_gated hTakes hDisjoint.symm).perform_run,
    gated_comm hTakes hTakes' hDisjoint]

end Tracer

------------------------------------------------------------
-- Built-in backends
------------------------------------------------------------

/- Calls that commute on a backend do so on one that mirrors it. -/
theorem CommuteAt.map
    {R β γ : Type}
    [Scalar R]
    [Backend R β]
    [Backend R γ]
    {f : β → γ}
    (hMap : Backend.Morphism (R := R) f)
    {b : β}
    {first second : GateCall R}
    (hCommute : CommuteAt b first second) :
    CommuteAt (f b) first second := by
  rcases hCommute with ⟨after, hForth, hBack⟩
  refine ⟨f after, ?_, ?_⟩
  · rw [hMap.runRequests_eq, hForth]
  · rw [hMap.runRequests_eq, hBack]

namespace Builtin

variable {R : Type} [Scalar R]

/-
  In every state that a built-in backend can get into, two calls
  that are accepted and name no common qubit are accepted in
  either order and lead to one and the same state. For the full
  state the arithmetic of amplitudes is that of a commutative
  ring; nothing is assumed of it for the others.
-/
theorem independent_calls_commute
    {b : Builtin R}
    (hReachable : b.Reachable)
    (hLaws : b.kind = .fullState → Amplitude.RingLaws R)
    {first second : GateCall R}
    (hFirst : (first.request.run.perform b).1 = .ok .done)
    (hSecond : (second.request.run.perform b).1 = .ok .done)
    (hDisjoint : first.qubits.Disjoint second.qubits) :
    ∃ after,
      runRequests b [first.request, second.request] =
          ([.ok .done, .ok .done], after) ∧
        runRequests b [second.request, first.request] =
          ([.ok .done, .ok .done], after) := by
  cases b with
  | fullState sim =>
      rcases hReachable.dense rfl with ⟨order, hDense⟩
      rw [fullState_morphism.run_eq] at hFirst hSecond
      exact (FullState.commuteAt_of_disjoint (hLaws rfl) hDense
        hFirst hSecond hDisjoint).map fullState_morphism
  | toffoli sim =>
      rw [toffoli_morphism.run_eq] at hFirst hSecond
      exact (Toffoli.commuteAt_of_disjoint hFirst hSecond
        hDisjoint).map toffoli_morphism
  | tracer t =>
      rw [tracer_morphism.run_eq] at hFirst hSecond
      exact (Tracer.commuteAt_of_disjoint hFirst hSecond
        hDisjoint).map tracer_morphism
  | stub s =>
      rcases Stub.perform_run first.request s with ⟨e, hRefused⟩
      rw [stub_morphism.run_eq, hRefused] at hFirst
      cases hFirst

/-
  On four real qubits a controlled gate on the first two
  commutes with a controlled rotation on the last two.
-/
theorem separate_pairs_commute :
    let b : Builtin ℝ :=
      (runRequests (.fullState (.start fun _ => 0))
        [.allocateQubit, .allocateQubit, .allocateQubit,
          .allocateQubit]).2
    let first : GateCall ℝ := .controlled .h [⟨0⟩] ⟨1⟩
    let second : GateCall ℝ := .controlled (.rx 1) [⟨2⟩] ⟨3⟩
    b.Reachable ∧
      (first.request.run.perform b).1 = .ok .done ∧
      (second.request.run.perform b).1 = .ok .done ∧
      first.qubits.Disjoint second.qubits ∧
      (runRequests b [first.request, second.request]).2 =
        (runRequests b [second.request, first.request]).2 := by
  intro b first second
  have hReachable : b.Reachable :=
    Reachable.run (.fullState _ (.start _)) _
  have hFirst : (first.request.run.perform b).1 = .ok .done := rfl
  have hSecond : (second.request.run.perform b).1 = .ok .done :=
    rfl
  have hDisjoint : first.qubits.Disjoint second.qubits := by
    simp [first, second, GateCall.qubits, GateCall.controls,
      GateCall.target]
  rcases independent_calls_commute hReachable
      (fun _ => Amplitude.ringLaws_real) hFirst hSecond
      hDisjoint with
    ⟨after, hForth, hBack⟩
  refine ⟨hReachable, hFirst, hSecond, hDisjoint, ?_⟩
  rw [hForth, hBack]

end Builtin

end QuantumRuntime

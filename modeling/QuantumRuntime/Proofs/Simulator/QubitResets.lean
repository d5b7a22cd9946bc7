import QuantumRuntime.Proofs.Simulator.GateCalls
import QuantumRuntime.Proofs.Simulator.GatePairs
import QuantumRuntime.Proofs.Simulator.ReadOuts
import QuantumRuntime.Proofs.Simulator.Refusals

/-
  This file proves that a qubit that is flipped when it was read
  out as one is zero. On the full state the flip moves the
  branch that was kept to where the bit of the qubit is clear,
  so that each amplitude there is the one where the bit had the
  outcome, scaled by the norm of the branch.

  Key definitions include:
    * `Scalar.DividesZero`
    * `FullState.ResetAt`
    * `Builtin.ResetTo`

  Key theorems include:
    * `StateVector.amplitude_reset`
    * `Builtin.AfterReadOut.exists_reset`
    * `Builtin.exists_reset`
-/

namespace QuantumRuntime

variable {R : Type} [Scalar R]

------------------------------------------------------------
-- State vectors
------------------------------------------------------------

/- Zero divided by a positive number is zero. -/
def Scalar.DividesZero
    (R : Type)
    [Scalar R] : Prop :=
  ∀ x : R, Scalar.less 0 x = true → 0 / x = 0

namespace StateVector

/- Under this law no norm scales zero. -/
theorem normalized_zero_of_dividesZero
    (hZero : Scalar.DividesZero R)
    (norm : R) :
    normalized norm 0 = 0 := by
  unfold normalized
  split
  · next hPositive =>
      show ({ re := 0 / norm, im := 0 / norm } : Amplitude R) = 0
      rw [hZero norm hPositive]
      rfl
  · rfl

/- The state after a qubit was measured and brought to zero. -/
def reset
    (position : Nat)
    (bit : Bool)
    (s : StateVector R) : StateVector R :=
  if bit then
    (s.collapse position bit).applyGate .x 0 position
  else
    s.collapse position bit

@[simp] theorem qubitCount_reset
    (position : Nat)
    (bit : Bool)
    (s : StateVector R) :
    (s.reset position bit).qubitCount = s.qubitCount := by
  unfold reset
  split <;> simp

/-
  A reset leaves nothing where the bit is set. Where it is
  clear, it leaves what was there with the outcome for the bit,
  scaled by the norm of the branch.
-/
theorem amplitude_reset
    (hZero : Scalar.DividesZero R)
    {position : Nat}
    (s : StateVector R)
    (hPosition : position < s.qubitCount)
    (bit : Bool)
    (i : Nat) :
    (s.reset position bit).amplitude i =
      if i.testBit position then
        0
      else
        normalized (Scalar.sqrt (s.branchWeight position bit))
          (s.amplitude (putBit position bit i)) := by
  by_cases hIndex : i < 2 ^ s.qubitCount
  · have hKept (j : Nat) (hThere : j < 2 ^ s.qubitCount) :
        (s.collapse position bit).amplitude j =
          if j.testBit position = bit then
            normalized (Scalar.sqrt (s.branchWeight position bit))
              (s.amplitude j)
          else
            0 := by
      rw [amplitude_collapse _ _ _ hThere]
      split
      · rfl
      · exact normalized_zero_of_dividesZero hZero _
    cases bit with
    | false =>
        rw [reset, if_neg Bool.false_ne_true, hKept i hIndex]
        cases hBit : i.testBit position with
        | false =>
            have hSame : putBit position false i = i :=
              clearBits_two_pow_of_clear hBit
            rw [if_pos rfl, if_neg Bool.false_ne_true, hSame]
        | true => rw [if_neg Bool.noConfusion, if_pos rfl]
    | true =>
        have hClear :
            putBit position false i < 2 ^ s.qubitCount :=
          putBit_lt hPosition false hIndex
        have hSet : putBit position true i < 2 ^ s.qubitCount :=
          putBit_lt hPosition true hIndex
        rw [reset, if_pos rfl,
          amplitude_applyGate_x _ (by simpa) (by simpa)]
        cases hBit : i.testBit position with
        | false =>
            rw [if_neg Bool.false_ne_true,
              if_neg Bool.false_ne_true]
            exact (hKept _ hSet).trans
              (if_pos (testBit_putBit_self position true i))
        | true =>
            rw [if_pos rfl, if_pos rfl]
            refine (hKept _ hClear).trans (if_neg ?_)
            rw [testBit_putBit_self]
            exact Bool.false_ne_true
  · have hPast :
        ¬ putBit position bit i < 2 ^ s.qubitCount := by
      intro hThere
      refine hIndex ?_
      rw [← putBit_testBit position i,
        ← putBit_putBit position _ bit i]
      exact putBit_lt hPosition _ hThere
    rw [amplitude_of_le _ (by simpa using hIndex),
      amplitude_of_le _ (not_lt.mp hPast),
      normalized_zero_of_dividesZero hZero, ite_self]

end StateVector

------------------------------------------------------------
-- Flips after read-outs
------------------------------------------------------------

section

variable {β : Type} [Backend R β]
variable {q : QubitId} {bit : Bool} {after last : β}

/-
  A qubit is flipped if its outcome was one, and else the
  backend stays as it is.
-/
structure Settles
    (R : Type)
    [Scalar R]
    [Backend R β]
    (q : QubitId)
    (bit : Bool)
    (after last : β) : Prop where
  of_one :
    bit = true →
      (Request.apply (R := R) .x q).run.perform after =
        (.ok .done, last)
  of_zero :
    bit = false → last = after

/- A flip keeps all handles. -/
theorem Settles.holds_iff
    {book : Bookkeeping R β}
    (hSettles : Settles R q bit after last)
    (hSound : book.Sound after)
    (handle : Handle) :
    book.Holds last handle ↔ book.Holds after handle := by
  cases bit with
  | false => rw [hSettles.of_zero rfl]
  | true =>
      have hStep := book.holds_run_iff hSound (.apply .x q) handle
      have hKeeps : (Request.apply (R := R) .x q).KeepsHandles :=
        trivial
      rw [hSettles.of_one rfl] at hStep
      simpa only [Exchange.not_creates_of_keepsHandles hKeeps,
        Exchange.not_ends_of_keepsHandles hKeeps, and_false,
        false_or, not_false_eq_true, true_and] using hStep

end

------------------------------------------------------------
-- Simulators
------------------------------------------------------------

/-
  What a reset with some outcome leaves of the full state. The
  qubits and their positions are the same, one draw is spent,
  and results may have new names to come.
-/
structure FullState.ResetAt
    (position : Nat)
    (bit : Bool)
    (sim after : FullState R) : Prop where
  amplitude :
    Scalar.DividesZero R →
      ∀ i,
        after.state.amplitude i =
          if i.testBit position then
            0
          else
            StateVector.normalized
              (Scalar.sqrt (sim.state.branchWeight position bit))
              (sim.state.amplitude (putBit position bit i))
  count :
    after.state.qubitCount = sim.state.qubitCount
  rest :
    after =
      { sim with
        state := after.state
        results := after.results
        drawn := sim.drawn + 1 }

namespace Builtin

/-
  What a reset of a qubit leaves of a simulator. On the full
  state the outcome is that of the next draw. On bits the qubit
  is zero and no other bit changes. The tracer counts the
  measurement.
-/
inductive ResetTo
    (q : QubitId) : Builtin R → Builtin R → Prop
  | fullState
      (sim after : FullState R)
      (position : Nat)
      (hLive : sim.qubits.get? q = some position)
      (hReset :
        sim.ResetAt position (sim.nextOutcome position) after) :
      ResetTo q (.fullState sim) (.fullState after)
  | toffoli
      (sim after : Toffoli R)
      (hBits :
        ∀ other,
          after.qubits.get? other =
            if other = q then
              some false
            else
              sim.qubits.get? other)
      (hRest :
        after =
          { sim with
            qubits := after.qubits
            results := after.results }) :
      ResetTo q (.toffoli sim) (.toffoli after)
  | tracer
      (t : Tracer R)
      (layer : Nat)
      (hLive : t.qubits.get? q = some layer) :
      ResetTo q (.tracer t)
        (.tracer (t.moved [q] (layer + 1)).measurementCounted)

variable {b after : Builtin R} {q : QubitId} {bit : Bool}

/- A flip that brings a qubit to zero after its read-out is accepted. -/
theorem AfterReadOut.exists_reset
    (hReachable : b.Reachable)
    (hAfter : AfterReadOut q b bit after) :
    ∃ last, Settles R q bit after last ∧ b.ResetTo q last := by
  cases hAfter with
  | fullState sim position results hLive =>
      rcases hReachable.dense rfl with ⟨order, hDense⟩
      let read : FullState R :=
        { sim.collapsed position with results := results }
      let last : FullState R :=
        { read with
          state :=
            sim.state.reset position (sim.nextOutcome position) }
      have hTakes : read.Takes (.plain .x q) 0 position :=
        ⟨hLive, rfl, rfl⟩
      have hFlip :
          (Request.apply .x q).run.perform read =
            (.ok .done, read.applied .x 0 position) :=
        hTakes.perform_run
      refine ⟨.fullState last, ⟨fun hOne => ?_, fun hNot => ?_⟩,
        .fullState sim last position hLive ⟨?_, ?_, rfl⟩⟩
      · have hLast : read.applied .x 0 position = last := by
          simp only [last, read, hOne, StateVector.reset, if_true,
            FullState.applied, FullState.collapsed]
        rw [fullState_morphism.run_eq, hFlip, hLast]
      · have hLast : last = read := by
          simp only [last, read, hNot, StateVector.reset,
            if_neg Bool.false_ne_true, FullState.collapsed]
        rw [hLast]
      · exact fun hZero =>
          StateVector.amplitude_reset hZero sim.state
            (hDense.position_lt hLive) _
      · simp [last]
  | toffoli sim bit results hLive =>
      let read : Toffoli R := { sim with results := results }
      have hIssued := HandleTable.issued_of_get?_eq_some _ hLive
      have hTakes : read.Takes (.plain .x q) bit :=
        ⟨hLive, rfl, rfl, .inl trivial⟩
      have hFlip :
          (Request.apply .x q).run.perform read =
            (.ok .done, read.gated (.plain .x q) bit) :=
        hTakes.perform_run
      let last : Toffoli R :=
        { read with qubits := sim.qubits.overwrite q false }
      refine ⟨.toffoli last, ⟨?_, ?_⟩,
        .toffoli sim last
          (HandleTable.get?_overwrite hIssued false) rfl⟩
      · rintro rfl
        have hFlips : read.Flips (.plain .x q) :=
          ⟨trivial, List.forall_mem_nil _⟩
        rw [toffoli_morphism.run_eq, hFlip,
          Toffoli.gated_of_flips hFlips]
        rfl
      · rintro rfl
        simp only [last, HandleTable.overwrite_of_live hLive]
        rfl
  | tracer t layer hLive =>
      exact ⟨_, ⟨(absurd · Bool.false_ne_true), fun _ => rfl⟩,
        .tracer t layer hLive⟩

/- All that a reset of a live qubit asks for is accepted. -/
theorem exists_reset
    (hReachable : b.Reachable)
    (hLive : b.Holds (.qubit q)) :
    ∃ r bit measured after last,
      ReadOut R q r b measured after ∧
        ((Request.resultValue r).run.perform measured).1 =
          .ok (.bit bit) ∧
        Settles R q bit after last ∧
        b.ResetTo q last ∧
        ∀ handle, last.Holds handle ↔ b.Holds handle := by
  rcases hReachable.exists_readOut hLive with
    ⟨r, bit, measured, after, hReadOut, hMeasured, hOutcome,
      hAfter⟩
  rcases hAfter.exists_reset hReachable with
    ⟨last, hSettles, hReset⟩
  refine ⟨r, bit, measured, after, last, hReadOut, ?_, hSettles,
    hReset, fun handle => ?_⟩
  · have hValue := resultValue_eq hMeasured hOutcome
    rw [Request.run, Action.perform_map, Action.perform_query,
      hValue]
    rfl
  · rw [← holds_bookkeeping_iff, ← holds_bookkeeping_iff]
    exact (hSettles.holds_iff
      (hReadOut.sound hReachable.sound) handle).trans
        (hReadOut.holds_iff hReachable.sound handle)

/- A qubit that is not live cannot be measured. -/
theorem refuses_measure
    (hDead : ¬ b.Holds (.qubit q)) :
    ∃ e : BackendError,
      (Request.measure [.z] [q]).run.perform b = (.error e, b) ∧
        (b.kind ≠ .stub → e.IsContractViolation) := by
  by_cases hKind : b.kind = .stub
  · cases b with
    | stub s =>
        rcases Stub.perform_run (.measure [.z] [q]) s with
          ⟨e, hRefused⟩
        refine ⟨e, ?_, fun hSimulator => absurd hKind hSimulator⟩
        rw [stub_morphism.run_eq, hRefused]
    | _ => cases hKind
  · let qubits := (bookkeeping.holdings b).qubits
    have hNone : qubits.get? q = none := by
      rw [← Option.not_isSome_iff_eq_none]
      exact fun hLive =>
        hDead ((holds_bookkeeping_iff b (.qubit q)).mp hLive)
    have hCheck :
        (Request.measure [.z] [q]).check b.limits qubits =
          .error (qubits.violation q "measure") :=
      Request.check_measure_of_dead rfl hNone
    exact ⟨qubits.violation q "measure",
      perform_run_of_error (answer_of_check hKind hCheck trivial),
      fun _ => trivial⟩

end Builtin

end QuantumRuntime

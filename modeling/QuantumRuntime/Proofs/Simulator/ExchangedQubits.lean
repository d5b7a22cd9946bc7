import Mathlib.Logic.Equiv.Basic
import QuantumRuntime.Proofs.Simulator.ControlOrder
import QuantumRuntime.Proofs.Simulator.GatePairs

/-
  This file proves that three controlled flips in alternating
  direction exchange two qubits. On the full state the flips
  permute the indices of amplitudes, and together they exchange
  two bits of each index; on bits they exchange two bits; and
  the tracer does not tell a control from a target, so that all
  three count alike.

  Key definitions include:
    * `exchangeBits`
    * `Request.exchange`
    * `FullState.Exchanged`
    * `Toffoli.exchanged`
    * `Builtin.Exchanged`

  Key theorems include:
    * `testBit_exchangeBits`
    * `flipUnder_three_times`
    * `StateVector.amplitude_controlled_flip`
    * `Builtin.run_exchange`
    * `Builtin.refuses_exchange`
-/

namespace QuantumRuntime

------------------------------------------------------------
-- Exchanging two bits of an index
------------------------------------------------------------

/- The index with the bits at two positions exchanged. -/
def exchangeBits
    (first second : Nat)
    (i : Nat) : Nat :=
  putBit second (i.testBit first) (putBit first (i.testBit second) i)

/- Each bit comes from the position it is exchanged with. -/
theorem testBit_exchangeBits
    (first second i k : Nat) :
    (exchangeBits first second i).testBit k =
      i.testBit (Equiv.swap first second k) := by
  unfold exchangeBits
  rw [testBit_putBit, testBit_putBit, Equiv.swap_apply_def]
  by_cases hSecond : k = second
  · by_cases hFirst : k = first
    · rw [if_pos hSecond, if_pos hFirst, ← hFirst, hSecond]
    · rw [if_pos hSecond, if_neg hFirst, if_pos hSecond]
  · by_cases hFirst : k = first
    · rw [if_neg hSecond, if_pos hFirst, if_pos hFirst]
    · rw [if_neg hSecond, if_neg hFirst, if_neg hFirst,
        if_neg hSecond]

theorem exchangeBits_comm
    (first second i : Nat) :
    exchangeBits first second i = exchangeBits second first i := by
  apply Nat.eq_of_testBit_eq
  intro k
  rw [testBit_exchangeBits, testBit_exchangeBits, Equiv.swap_comm]

/- Exchanging twice changes nothing. -/
@[simp] theorem exchangeBits_exchangeBits
    (first second i : Nat) :
    exchangeBits first second (exchangeBits first second i) = i := by
  apply Nat.eq_of_testBit_eq
  intro k
  rw [testBit_exchangeBits, testBit_exchangeBits,
    Equiv.swap_apply_self]

/- Exchanging valid positions keeps an index valid. -/
theorem exchangeBits_lt
    {first second n i : Nat}
    (hFirst : first < n)
    (hSecond : second < n)
    (hIndex : i < 2 ^ n) :
    exchangeBits first second i < 2 ^ n :=
  putBit_lt hSecond _ (putBit_lt hFirst _ hIndex)

/- A single bit is held when it is set. -/
theorem holds_two_pow_iff
    (position i : Nat) :
    Holds (2 ^ position) i ↔ i.testBit position = true := by
  rw [holds_iff]
  constructor
  · intro hBits
    exact hBits position Nat.testBit_two_pow_self
  · intro hBit k hSet
    rw [Nat.testBit_two_pow, decide_eq_true_iff] at hSet
    rw [← hSet, hBit]

/-
  Three flips in alternating direction, each under the bit of
  the other position, exchange the two bits.
-/
theorem flipUnder_three_times
    {first second : Nat}
    (hOther : first ≠ second)
    (i : Nat) :
    flipUnder (2 ^ first) second
        (flipUnder (2 ^ second) first
          (flipUnder (2 ^ first) second i)) =
      exchangeBits first second i := by
  apply Nat.eq_of_testBit_eq
  intro k
  rw [testBit_exchangeBits, Equiv.swap_apply_def]
  simp only [testBit_flipUnder, holds_two_pow_iff]
  by_cases hFirst : k = first
  · subst hFirst
    cases i.testBit k <;> cases hBit : i.testBit second <;>
      simp [hOther, hBit]
  · by_cases hSecond : k = second
    · subst hSecond
      cases i.testBit k <;> cases hBit : i.testBit first <;>
        simp [hOther, hOther.symm, hBit]
    · simp [hFirst, hSecond]

------------------------------------------------------------
-- Controlled flips of a state vector
------------------------------------------------------------

namespace StateVector

variable {R : Type} [Scalar R]

/-
  A controlled flip moves each amplitude to the flipped index,
  without arithmetic.
-/
theorem amplitude_controlled_flip
    {mask position : Nat}
    (hOutside : mask.testBit position = false)
    (s : StateVector R)
    (hPosition : position < s.qubitCount)
    {i : Nat}
    (hIndex : i < 2 ^ s.qubitCount) :
    (s.applyGate .x mask position).amplitude i =
      s.amplitude (flipUnder mask position i) := by
  rw [amplitude_applyGate_eq .x mask s hPosition hIndex,
    pairImage_eq]
  simp only [holds_putBit_iff hOutside]
  by_cases hHolds : Holds mask i
  · have hFlip :
        flipUnder mask position i =
          putBit position (!i.testBit position) i := by
      apply Nat.eq_of_testBit_eq
      intro k
      rw [testBit_flipUnder, testBit_putBit]
      by_cases hAt : k = position
      · rw [if_pos ⟨hAt, hHolds⟩, if_pos hAt, hAt]
      · rw [if_neg (fun hBoth => hAt hBoth.1), if_neg hAt]
    rw [if_pos hHolds, hFlip]
    cases i.testBit position <;> rfl
  · rw [if_neg hHolds, flipUnder, if_neg hHolds]

/-
  The state after three controlled flips in alternating
  direction holds, at each index, the amplitude that was at the
  index with the two bits exchanged.
-/
theorem amplitude_three_flips
    {first second : Nat}
    (s : StateVector R)
    (hFirst : first < s.qubitCount)
    (hSecond : second < s.qubitCount)
    (hOther : first ≠ second)
    (i : Nat) :
    (((s.applyGate .x (2 ^ first) second).applyGate .x
        (2 ^ second) first).applyGate .x (2 ^ first)
          second).amplitude i =
      s.amplitude (exchangeBits first second i) := by
  have hOutside : (2 ^ first).testBit second = false := by
    simp [hOther]
  have hOutside' : (2 ^ second).testBit first = false := by
    simp [hOther.symm]
  by_cases hIndex : i < 2 ^ s.qubitCount
  · have hOnce :
        flipUnder (2 ^ first) second i < 2 ^ s.qubitCount :=
      flipUnder_lt hSecond hIndex
    have hTwice :
        flipUnder (2 ^ second) first
            (flipUnder (2 ^ first) second i) <
          2 ^ s.qubitCount :=
      flipUnder_lt hFirst hOnce
    rw [amplitude_controlled_flip hOutside _ (by simpa)
        (by simpa),
      amplitude_controlled_flip hOutside' _ (by simpa)
        (by simpa),
      amplitude_controlled_flip hOutside s hSecond hTwice,
      flipUnder_three_times hOther]
  · have hPast :
        ¬ exchangeBits first second i < 2 ^ s.qubitCount := by
      intro hThere
      refine hIndex ?_
      rw [← exchangeBits_exchangeBits first second i]
      exact exchangeBits_lt hFirst hSecond hThere
    rw [amplitude_of_le _ (by simpa using hIndex),
      amplitude_of_le _ (not_lt.mp hPast)]

end StateVector

------------------------------------------------------------
-- The requests of an exchange
------------------------------------------------------------

namespace Request

variable {R : Type}

/- Flip the target where the control is one. -/
def controlledFlip
    (control target : QubitId) : Request R :=
  .applyControlled .x [control] target

/- Exchange two qubits by three controlled flips. -/
def exchange
    (first second : QubitId) : List (Request R) :=
  [controlledFlip first second, controlledFlip second first,
    controlledFlip first second]

/- The answers when all three flips are accepted. -/
def exchangeAccepted : List (Except BackendError Reply) :=
  [.ok .done, .ok .done, .ok .done]

/- An exchange is accepted when each flip is in its turn. -/
theorem run_exchange_iff
    {β : Type}
    [Scalar R]
    [Backend R β]
    {b after : β}
    {first second : QubitId} :
    runRequests b (exchange first second) =
        (exchangeAccepted, after) ↔
      ∃ once twice : β,
        (controlledFlip first second).run.perform b =
            (.ok .done, once) ∧
          (controlledFlip second first).run.perform once =
            (.ok .done, twice) ∧
          (controlledFlip first second).run.perform twice =
            (.ok .done, after) := by
  simp [exchange, exchangeAccepted, Prod.ext_iff, and_assoc]

end Request

/- A control that is not the target is in order. -/
theorem checkDistinct_singleton
    {control target : QubitId}
    (hOther : control ≠ target) :
    checkDistinct [control] target = .ok () := by
  simp [checkDistinct, checkDistinctFrom, hOther]

/- A flip that names a qubit twice or a dead one is misused. -/
theorem Request.check_controlledFlip_of_bad
    {R V : Type}
    {qubits : HandleTable QubitId V}
    {control target : QubitId}
    (limits : Limits R)
    (hBad :
      control = target ∨
        ¬ qubits.Live control ∨ ¬ qubits.Live target) :
    ∃ e : BackendError,
      (controlledFlip control target).check limits qubits =
          .error e ∧
        e.IsContractViolation := by
  show ∃ e : BackendError,
    (qubits.checkLive "apply_controlled" [target, control] >>=
        fun _ => checkDistinct [control] target >>=
          fun _ => limits.checkGate "apply_controlled" .x) =
        .error e ∧
      e.IsContractViolation
  by_cases hLive : ∀ q ∈ [target, control], qubits.Live q
  · rw [(qubits.checkLive_eq_ok_iff _ _).mpr hLive]
    rcases hBad with rfl | hDead | hDead
    · have hTwice :
          ∃ reason,
            checkDistinct [control] control =
              .error (.invalidArgument "apply_controlled"
                reason) :=
        ⟨_, if_pos rfl⟩
      rcases hTwice with ⟨reason, hTwice⟩
      rw [hTwice]
      exact ⟨_, rfl, trivial⟩
    · exact absurd (hLive control (by simp)) hDead
    · exact absurd (hLive target (by simp)) hDead
  · rcases HandleTable.checkLive_of_dead hLive
        "apply_controlled" with
      ⟨q, hDead⟩
    rw [hDead]
    exact ⟨_, rfl, trivial⟩

variable {R : Type} [Scalar R] {first second : QubitId}

------------------------------------------------------------
-- The simulator of the full state
------------------------------------------------------------

namespace FullState

variable {sim after : FullState R} {order : List QubitId}

/-
  Two states differ by an exchange of the qubits at two
  positions. Positions, results and draws are the same.
-/
structure Exchanged
    (position position' : Nat)
    (sim after : FullState R) : Prop where
  amplitude :
    ∀ i,
      after.state.amplitude i =
        sim.state.amplitude (exchangeBits position position' i)
  count :
    after.state.qubitCount = sim.state.qubitCount
  rest :
    after = { sim with state := after.state }

namespace Exchanged

variable {position position' : Nat}

/- There is no telling which qubit was exchanged with which. -/
theorem comm
    (hExchanged : Exchanged position position' sim after) :
    Exchanged position' position sim after where
  amplitude i := by
    rw [hExchanged.amplitude, exchangeBits_comm]
  count := hExchanged.count
  rest := hExchanged.rest

/- An exchange moves no qubit to another position. -/
theorem qubits_eq
    (hExchanged : Exchanged position position' sim after) :
    after.qubits = sim.qubits := by
  rw [hExchanged.rest]

theorem dense
    (hExchanged : Exchanged position position' sim after)
    (hDense : sim.Dense order) :
    after.Dense order :=
  hDense.of_same hExchanged.qubits_eq hExchanged.count
    (by rw [hExchanged.rest])

/- What an exchange leaves of a state is determined. -/
theorem unique
    {after' : FullState R}
    (hExchanged : Exchanged position position' sim after)
    (hExchanged' : Exchanged position position' sim after') :
    after' = after := by
  have hState : after'.state = after.state := by
    refine StateVector.ext_amplitude
      (hExchanged'.count.trans hExchanged.count.symm) ?_
    intro i _
    rw [hExchanged'.amplitude, hExchanged.amplitude]
  rw [hExchanged'.rest, hState]
  exact hExchanged.rest.symm

/- A second exchange takes back the first. -/
theorem twice
    {again : FullState R}
    (hExchanged : Exchanged position position' sim after)
    (hAgain : Exchanged position position' after again) :
    again = sim := by
  have hState : again.state = sim.state := by
    refine StateVector.ext_amplitude
      (hAgain.count.trans hExchanged.count) ?_
    intro i _
    rw [hAgain.amplitude, hExchanged.amplitude,
      exchangeBits_exchangeBits]
  rw [hAgain.rest, hState, hExchanged.rest]

end Exchanged

omit [Scalar R] in
/- A control that is live gives its position to the mask. -/
theorem takes_controlledFlip
    {position position' : Nat}
    (hFirst : sim.qubits.get? first = some position)
    (hSecond : sim.qubits.get? second = some position')
    (hOther : first ≠ second) :
    sim.Takes (.controlled .x [first] second) (2 ^ position)
      position' where
  target_live := hSecond
  mask_eq := by
    simp [GateCall.controls, controlMask,
      HandleTable.get_of_live hFirst, Nat.one_shiftLeft]
    rfl
  distinct := checkDistinct_singleton hOther

/- On the full state the flips exchange two bits of each index. -/
theorem run_exchange
    (hDense : sim.Dense order)
    {position position' : Nat}
    (hFirst : sim.qubits.get? first = some position)
    (hSecond : sim.qubits.get? second = some position')
    (hOther : first ≠ second) :
    ∃ after,
      runRequests sim (Request.exchange first second) =
          (Request.exchangeAccepted, after) ∧
        Exchanged position position' sim after := by
  let once := sim.applied .x (2 ^ position) position'
  let twice := once.applied .x (2 ^ position') position
  let after := twice.applied .x (2 ^ position) position'
  have hTakesTwice :
      once.Takes (.controlled .x [second] first)
        (2 ^ position') position :=
    takes_controlledFlip hSecond hFirst hOther.symm
  have hTakesThrice :
      twice.Takes (.controlled .x [first] second)
        (2 ^ position) position' :=
    takes_controlledFlip hFirst hSecond hOther
  have hOnce :
      (Request.controlledFlip first second).run.perform sim =
        (.ok .done, once) :=
    (takes_controlledFlip hFirst hSecond hOther).perform_run
  have hTwice :
      (Request.controlledFlip second first).run.perform once =
        (.ok .done, twice) :=
    hTakesTwice.perform_run
  have hThrice :
      (Request.controlledFlip first second).run.perform twice =
        (.ok .done, after) :=
    hTakesThrice.perform_run
  refine ⟨after,
    Request.run_exchange_iff.mpr
      ⟨once, twice, hOnce, hTwice, hThrice⟩,
    fun i => ?_, ?_, rfl⟩
  · exact StateVector.amplitude_three_flips sim.state
      (hDense.position_lt hFirst) (hDense.position_lt hSecond)
      (fun hSame => hOther
        (hDense.eq_of_position hFirst (hSame ▸ hSecond))) i
  · simp [after, twice, once, applied]

end FullState

------------------------------------------------------------
-- The simulator of bits
------------------------------------------------------------

namespace Toffoli

variable {sim : Toffoli R} {bit bit' : Bool}

/- The simulator after the bits of two qubits were exchanged. -/
def exchanged
    (first second : QubitId)
    (bit bit' : Bool)
    (sim : Toffoli R) : Toffoli R :=
  { sim with
    qubits :=
      (sim.qubits.overwrite first bit').overwrite second bit }

omit [Scalar R] in
/- Each qubit has the bit of the qubit it is exchanged with. -/
theorem get?_exchanged
    (hFirst : sim.qubits.get? first = some bit)
    (hSecond : sim.qubits.get? second = some bit')
    (q : QubitId) :
    (sim.exchanged first second bit bit').qubits.get? q =
      sim.qubits.get? (Equiv.swap first second q) := by
  have hIssued := HandleTable.issued_of_get?_eq_some _ hFirst
  have hIssued' := HandleTable.issued_of_get?_eq_some _ hSecond
  unfold exchanged
  rw [HandleTable.get?_overwrite (by simpa using hIssued'),
    HandleTable.get?_overwrite hIssued, Equiv.swap_apply_def]
  by_cases hAtSecond : q = second
  · by_cases hAtFirst : q = first
    · rw [if_pos hAtSecond, if_pos hAtFirst, hSecond]
      rw [← hAtSecond, hAtFirst, hFirst] at hSecond
      exact hSecond
    · rw [if_pos hAtSecond, if_neg hAtFirst, if_pos hAtSecond,
        hFirst]
  · by_cases hAtFirst : q = first
    · rw [if_neg hAtSecond, if_pos hAtFirst, if_pos hAtFirst,
        hSecond]
    · rw [if_neg hAtSecond, if_neg hAtFirst, if_neg hAtFirst,
        if_neg hAtSecond]

omit [Scalar R] in
theorem shape_exchanged
    (hFirst : sim.qubits.get? first = some bit)
    (hSecond : sim.qubits.get? second = some bit')
    (hOther : first ≠ second) :
    (sim.exchanged first second bit bit').qubits.shape =
      sim.qubits.shape := by
  have hStill :
      (sim.qubits.overwrite first bit').get? second =
        some bit' := by
    rw [HandleTable.get?_overwrite
        (HandleTable.issued_of_get?_eq_some _ hFirst),
      if_neg hOther.symm, hSecond]
  exact (HandleTable.shape_overwrite hStill bit).trans
    (HandleTable.shape_overwrite hFirst bit')

omit [Scalar R] in
theorem exchanged_comm
    (hFirst : sim.qubits.get? first = some bit)
    (hSecond : sim.qubits.get? second = some bit')
    (hOther : first ≠ second) :
    sim.exchanged second first bit' bit =
      sim.exchanged first second bit bit' := by
  unfold exchanged
  rw [HandleTable.overwrite_comm
    (HandleTable.issued_of_get?_eq_some _ hSecond)
    (HandleTable.issued_of_get?_eq_some _ hFirst) hOther.symm]

omit [Scalar R] in
/- A second exchange takes back the first. -/
theorem exchanged_exchanged
    (hFirst : sim.qubits.get? first = some bit)
    (hSecond : sim.qubits.get? second = some bit')
    (hOther : first ≠ second) :
    (sim.exchanged first second bit bit').exchanged first second
        bit' bit =
      sim := by
  have hIssued := HandleTable.issued_of_get?_eq_some _ hFirst
  have hIssued' := HandleTable.issued_of_get?_eq_some _ hSecond
  have hTable :
      (((sim.qubits.overwrite first bit').overwrite second
          bit).overwrite first bit).overwrite second bit' =
        sim.qubits := by
    rw [HandleTable.overwrite_comm hIssued hIssued' hOther,
      HandleTable.overwrite_overwrite,
      HandleTable.overwrite_comm hIssued' hIssued hOther.symm,
      HandleTable.overwrite_overwrite,
      HandleTable.overwrite_of_live hFirst,
      HandleTable.overwrite_of_live hSecond]
  unfold exchanged
  dsimp only
  rw [hTable]

omit [Scalar R] in
/- A controlled flip adds the control to the target. -/
theorem gated_controlledFlip
    (hFirst : sim.qubits.get? first = some bit)
    (hSecond : sim.qubits.get? second = some bit') :
    sim.gated (.controlled .x [first] second) bit' =
      { sim with
        qubits := sim.qubits.overwrite second (bit ^^ bit') } := by
  cases bit with
  | false =>
      rw [gated_of_not_flips, Bool.false_xor,
        HandleTable.overwrite_of_live hSecond]
      rintro ⟨-, hSet⟩
      have hOne := hSet first List.mem_cons_self
      rw [hFirst] at hOne
      cases hOne
  | true =>
      rw [gated_of_flips, Bool.true_xor]
      · rfl
      · refine ⟨trivial, fun c hControl => ?_⟩
        cases List.mem_singleton.mp hControl
        exact hFirst

/- On bits a controlled flip is taken when its qubits are live. -/
theorem perform_controlledFlip
    (hFirst : sim.qubits.get? first = some bit)
    (hSecond : sim.qubits.get? second = some bit')
    (hOther : first ≠ second) :
    (Request.controlledFlip first second).run.perform sim =
      (.ok .done,
        { sim with
          qubits :=
            sim.qubits.overwrite second (bit ^^ bit') }) := by
  have hTakes :
      sim.Takes (.controlled .x [first] second) bit' :=
    { target_live := hSecond
      controls_live :=
        (sim.qubits.checkLive_eq_ok_iff _ _).mpr
          (by simp [GateCall.controls, HandleTable.Live, hFirst])
      distinct := checkDistinct_singleton hOther
      supported := .inl trivial }
  rw [← gated_controlledFlip hFirst hSecond]
  exact hTakes.perform_run

/- On bits the flips exchange the bits of the two qubits. -/
theorem run_exchange
    (hFirst : sim.qubits.get? first = some bit)
    (hSecond : sim.qubits.get? second = some bit')
    (hOther : first ≠ second) :
    runRequests sim (Request.exchange first second) =
      (Request.exchangeAccepted,
        sim.exchanged first second bit bit') := by
  have hIssued := HandleTable.issued_of_get?_eq_some _ hFirst
  have hIssued' := HandleTable.issued_of_get?_eq_some _ hSecond
  let once : Toffoli R :=
    { sim with
      qubits := sim.qubits.overwrite second (bit ^^ bit') }
  let twice : Toffoli R :=
    { sim with
      qubits := once.qubits.overwrite first bit' }
  have hFirstOnce : once.qubits.get? first = some bit := by
    rw [HandleTable.get?_overwrite hIssued', if_neg hOther, hFirst]
  have hSecondOnce :
      once.qubits.get? second = some (bit ^^ bit') := by
    rw [HandleTable.get?_overwrite hIssued', if_pos rfl]
  have hIssuedOnce : once.qubits.Issued first :=
    HandleTable.issued_of_get?_eq_some _ hFirstOnce
  have hFirstTwice : twice.qubits.get? first = some bit' := by
    rw [HandleTable.get?_overwrite hIssuedOnce, if_pos rfl]
  have hSecondTwice :
      twice.qubits.get? second = some (bit ^^ bit') := by
    rw [HandleTable.get?_overwrite hIssuedOnce, if_neg hOther.symm,
      hSecondOnce]
  have hOnce :
      (Request.controlledFlip first second).run.perform sim =
        (.ok .done, once) :=
    perform_controlledFlip hFirst hSecond hOther
  -- The first bit is cancelled, so the second takes its place.
  have hTwice :
      (Request.controlledFlip second first).run.perform once =
        (.ok .done, twice) := by
    rw [perform_controlledFlip hSecondOnce hFirstOnce hOther.symm]
    have hBit : ((bit ^^ bit') ^^ bit) = bit' := by
      cases bit <;> cases bit' <;> rfl
    rw [hBit]
  have hThrice :
      (Request.controlledFlip first second).run.perform twice =
        (.ok .done, sim.exchanged first second bit bit') := by
    rw [perform_controlledFlip hFirstTwice hSecondTwice hOther]
    have hBit : (bit' ^^ (bit ^^ bit')) = bit := by
      cases bit <;> cases bit' <;> rfl
    have hTable :
        twice.qubits.overwrite second bit =
          (sim.qubits.overwrite first bit').overwrite second
            bit := by
      show ((sim.qubits.overwrite second (bit ^^ bit')).overwrite
        first bit').overwrite second bit = _
      rw [HandleTable.overwrite_comm hIssued' hIssued hOther.symm,
        HandleTable.overwrite_overwrite]
    rw [hBit, hTable]
    rfl
  exact Request.run_exchange_iff.mpr
    ⟨once, twice, hOnce, hTwice, hThrice⟩

end Toffoli

------------------------------------------------------------
-- The tracer
------------------------------------------------------------

namespace Tracer

variable {tracer : Tracer R}

/- The tracer does not tell a control from its target. -/
theorem perform_controlledFlip
    (hFirst : tracer.qubits.Live first)
    (hSecond : tracer.qubits.Live second)
    (hOther : first ≠ second) :
    ∃ after : Tracer R,
      (Request.controlledFlip first second).run.perform tracer =
          (.ok .done, after) ∧
        (Request.controlledFlip second first).run.perform tracer =
          (.ok .done, after) ∧
        after.qubits.shape = tracer.qubits.shape := by
  rcases (tracer.qubits.live_iff first).mp hFirst with
    ⟨layer, hLayer⟩
  rcases (tracer.qubits.live_iff second).mp hSecond with
    ⟨layer', hLayer'⟩
  have hTakes :
      tracer.Takes (.controlled .x [first] second) layer' :=
    { target_live := hLayer'
      controls_live := by simpa [GateCall.controls] using hFirst
      distinct := checkDistinct_singleton hOther }
  have hTakes' :
      tracer.Takes (.controlled .x [second] first) layer :=
    { target_live := hLayer
      controls_live := by simpa [GateCall.controls] using hSecond
      distinct := checkDistinct_singleton hOther.symm }
  have hSame :
      tracer.gated (.controlled .x [second] first) layer =
        tracer.gated (.controlled .x [first] second) layer' := by
    have hPerm : [second, first].Perm [first, second] :=
      List.Perm.swap first second []
    simp only [gated, layerOf, counted, moved, GateCall.controls,
      GateCall.target, latestLayer, List.foldl_cons,
      List.foldl_nil, List.cons_append, List.nil_append, hLayer,
      hLayer', Option.getD_some, max_comm layer layer',
      HandleTable.overwriteAll_perm hPerm]
  refine ⟨_, hTakes.perform_run, ?_, ?_⟩
  · rw [← hSame]
    exact hTakes'.perform_run
  · apply HandleTable.shape_overwriteAll
    simpa [GateCall.controls, GateCall.target] using
      ⟨hFirst, hSecond⟩

/- The three flips count the same from either side. -/
theorem run_exchange
    (hFirst : tracer.qubits.Live first)
    (hSecond : tracer.qubits.Live second)
    (hOther : first ≠ second) :
    ∃ after : Tracer R,
      runRequests tracer (Request.exchange first second) =
          (Request.exchangeAccepted, after) ∧
        runRequests tracer (Request.exchange second first) =
          (Request.exchangeAccepted, after) ∧
        after.qubits.shape = tracer.qubits.shape := by
  rcases perform_controlledFlip hFirst hSecond hOther with
    ⟨once, hOnce, hOnce', hShape⟩
  have hStill {q : QubitId} (hLive : tracer.qubits.Live q) :
      once.qubits.Live q := by
    rw [HandleTable.Live,
      HandleTable.isSome_get?_of_shape_eq hShape]
    exact hLive
  rcases perform_controlledFlip (hStill hFirst) (hStill hSecond)
      hOther with
    ⟨twice, hTwice, hTwice', hShape'⟩
  have hStill' {q : QubitId} (hLive : tracer.qubits.Live q) :
      twice.qubits.Live q := by
    rw [HandleTable.Live,
      HandleTable.isSome_get?_of_shape_eq hShape']
    exact hStill hLive
  rcases perform_controlledFlip (hStill' hFirst)
      (hStill' hSecond) hOther with
    ⟨after, hThrice, hThrice', hShape''⟩
  exact ⟨after,
    Request.run_exchange_iff.mpr
      ⟨once, twice, hOnce, hTwice', hThrice⟩,
    Request.run_exchange_iff.mpr
      ⟨once, twice, hOnce', hTwice, hThrice'⟩,
    hShape''.trans (hShape'.trans hShape)⟩

end Tracer

------------------------------------------------------------
-- Built-in backends
------------------------------------------------------------

namespace Builtin

/-
  Two states of a simulator differ by an exchange of two qubits:
  of their bits in each index of an amplitude, or of their bits
  alone. The tracer has neither, and keeps its qubits.
-/
inductive Exchanged
    (first second : QubitId) : Builtin R → Builtin R → Prop
  | fullState
      (sim after : FullState R)
      (position position' : Nat)
      (hFirst : sim.qubits.get? first = some position)
      (hSecond : sim.qubits.get? second = some position')
      (hExchanged :
        FullState.Exchanged position position' sim after) :
      Exchanged first second (.fullState sim) (.fullState after)
  | toffoli
      (sim after : Toffoli R)
      (hBits :
        ∀ q,
          after.qubits.get? q =
            sim.qubits.get? (Equiv.swap first second q))
      (hShape : after.qubits.shape = sim.qubits.shape)
      (hRest : after = { sim with qubits := after.qubits }) :
      Exchanged first second (.toffoli sim) (.toffoli after)
  | tracer
      (t after : Tracer R)
      (hShape : after.qubits.shape = t.qubits.shape) :
      Exchanged first second (.tracer t) (.tracer after)

/-
  In every state, the flips exchange two qubits that are live
  and distinct, from either side alike. A second exchange takes
  back the first, but for what the tracer counts.
-/
theorem run_exchange
    {b : Builtin R}
    (hReachable : b.Reachable)
    (hFirst : b.Holds (.qubit first))
    (hSecond : b.Holds (.qubit second))
    (hOther : first ≠ second) :
    ∃ after,
      runRequests b (Request.exchange first second) =
          (Request.exchangeAccepted, after) ∧
        Exchanged first second b after ∧
        runRequests b (Request.exchange second first) =
          (Request.exchangeAccepted, after) ∧
        (b.kind ≠ .tracer →
          runRequests after (Request.exchange first second) =
            (Request.exchangeAccepted, b)) := by
  cases b with
  | fullState sim =>
      rcases hReachable.dense rfl with ⟨order, hDense⟩
      rcases (sim.qubits.live_iff first).mp hFirst with
        ⟨position, hPosition⟩
      rcases (sim.qubits.live_iff second).mp hSecond with
        ⟨position', hPosition'⟩
      rcases FullState.run_exchange hDense hPosition hPosition'
          hOther with
        ⟨after, hRun, hExchanged⟩
      rcases FullState.run_exchange hDense hPosition' hPosition
          hOther.symm with
        ⟨after', hRun', hExchanged'⟩
      have hQubits : after.qubits = sim.qubits :=
        hExchanged.qubits_eq
      rcases FullState.run_exchange (hExchanged.dense hDense)
          (hQubits ▸ hPosition) (hQubits ▸ hPosition') hOther with
        ⟨again, hRunAgain, hAgain⟩
      cases hExchanged.unique hExchanged'.comm
      cases hExchanged.twice hAgain
      refine ⟨.fullState after, ?_,
        .fullState sim after position position' hPosition
          hPosition' hExchanged, ?_, fun _ => ?_⟩
      · rw [fullState_morphism.runRequests_eq, hRun]
      · rw [fullState_morphism.runRequests_eq, hRun']
      · rw [fullState_morphism.runRequests_eq, hRunAgain]
  | toffoli sim =>
      rcases (sim.qubits.live_iff first).mp hFirst with
        ⟨bit, hBit⟩
      rcases (sim.qubits.live_iff second).mp hSecond with
        ⟨bit', hBit'⟩
      let after := sim.exchanged first second bit bit'
      have hBits :
          ∀ q,
            after.qubits.get? q =
              sim.qubits.get? (Equiv.swap first second q) :=
        Toffoli.get?_exchanged hBit hBit'
      have hAfter : after.qubits.get? first = some bit' := by
        rw [hBits, Equiv.swap_apply_left, hBit']
      have hAfter' : after.qubits.get? second = some bit := by
        rw [hBits, Equiv.swap_apply_right, hBit]
      refine ⟨.toffoli after, ?_,
        .toffoli sim after hBits
          (Toffoli.shape_exchanged hBit hBit' hOther) rfl, ?_,
        fun _ => ?_⟩
      · rw [toffoli_morphism.runRequests_eq,
          Toffoli.run_exchange hBit hBit' hOther]
      · rw [toffoli_morphism.runRequests_eq,
          Toffoli.run_exchange hBit' hBit hOther.symm,
          Toffoli.exchanged_comm hBit hBit' hOther]
      · rw [toffoli_morphism.runRequests_eq,
          Toffoli.run_exchange hAfter hAfter' hOther,
          Toffoli.exchanged_exchanged hBit hBit' hOther]
  | tracer t =>
      rcases Tracer.run_exchange hFirst hSecond hOther with
        ⟨after, hRun, hRun', hShape⟩
      refine ⟨.tracer after, ?_, .tracer t after hShape, ?_,
        fun hKind => absurd rfl hKind⟩
      · rw [tracer_morphism.runRequests_eq, hRun]
      · rw [tracer_morphism.runRequests_eq, hRun']
  | stub s => exact hFirst.elim

/-
  The first flip is refused when the qubits are not distinct or
  not both live. The caller has misused the operation, and the
  state is as before.
-/
theorem refuses_exchange
    {b : Builtin R}
    (hSimulator : b.kind ≠ .stub)
    (hBad :
      first = second ∨
        ¬ b.Holds (.qubit first) ∨ ¬ b.Holds (.qubit second)) :
    ∃ e : BackendError,
      (Request.controlledFlip first second).run.perform b =
          (.error e, b) ∧
        e.IsContractViolation := by
  let qubits := (bookkeeping.holdings b).qubits
  have hLive (q : QubitId) :
      qubits.Live q ↔ b.Holds (.qubit q) :=
    holds_bookkeeping_iff b (.qubit q)
  rw [← hLive, ← hLive] at hBad
  rcases Request.check_controlledFlip_of_bad b.limits hBad with
    ⟨e, hCheck, hViolation⟩
  exact ⟨e,
    perform_run_of_error (answer_of_check hSimulator hCheck trivial),
    hViolation⟩

end Builtin

end QuantumRuntime

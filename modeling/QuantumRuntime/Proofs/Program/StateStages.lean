import QuantumRuntime.Proofs.Program.NeutralProtocols
import QuantumRuntime.Proofs.Simulator.EvenBranches

/-
  This file follows a program on the simulator of the full state
  from one state vector to the next. As long as a program only
  uses the qubits that it was lent, the simulator differs from
  the one that lent them in its state vector, in the draws that
  were spent and in the names of results to come. Each operation
  takes a property of the state vector to another one, and an
  outcome depends on the draw whose turn it is.

  Key definitions include:
    * `FullState.Stage`
    * `FullState.outcomeOf`
    * `Mount.Evolves`

  Key theorems include:
    * `Mount.Evolves.gate`
    * `Mount.Evolves.measureBit`
    * `Mount.Evolves.reset`
    * `FullState.Dense.justLent`
    * `Builtin.exists_balanced_withQubits`
-/

namespace QuantumRuntime

------------------------------------------------------------
-- Stages
------------------------------------------------------------

namespace FullState

/-
  A stage of a program on lent qubits: some draws have been
  spent, and the state vector has some property.
-/
structure Stage
    (lent : FullState ℝ)
    (spent : Nat)
    (Shown : StateVector ℝ → Prop)
    (sim : FullState ℝ) : Prop where
  rest_eq :
    sim =
      { lent with
        state := sim.state
        results := sim.results
        drawn := lent.drawn + spent }
  shown :
    Shown sim.state

/-
  The outcome of a position in a state vector, by the draw that
  comes next when some have been spent.
-/
noncomputable def outcomeOf
    (lent : FullState ℝ)
    (spent position : Nat)
    (s : StateVector ℝ) : Bool :=
  decide
    (lent.draws (lent.drawn + spent) <
      s.branchWeight position true)

/-
  The draw decides about a position of a state vector: the total
  weight is one, the position is there, and the outcome that is
  picked has weight.
-/
structure Decides
    (lent : FullState ℝ)
    (spent position : Nat)
    (s : StateVector ℝ) : Prop where
  weight_eq :
    s.totalWeight = 1
  position_lt :
    position < s.qubitCount
  outcome_weight :
    0 < s.branchWeight position (lent.outcomeOf spent position s)

variable {lent sim : FullState ℝ} {spent position : Nat}
variable {Shown : StateVector ℝ → Prop}

namespace Stage

theorem qubits_eq
    (hStage : lent.Stage spent Shown sim) :
    sim.qubits = lent.qubits := by
  rw [hStage.rest_eq]

theorem draws_eq
    (hStage : lent.Stage spent Shown sim) :
    sim.draws = lent.draws := by
  rw [hStage.rest_eq]

theorem drawn_eq
    (hStage : lent.Stage spent Shown sim) :
    sim.drawn = lent.drawn + spent := by
  rw [hStage.rest_eq]

/- The next outcome is that of the draw whose turn it is. -/
theorem nextOutcome_eq
    (hStage : lent.Stage spent Shown sim)
    (position : Nat) :
    sim.nextOutcome position =
      lent.outcomeOf spent position sim.state := by
  rw [nextOutcome, hStage.draws_eq, hStage.drawn_eq]
  rfl

end Stage

/- The simulator that lends the qubits is at its first stage. -/
theorem stage_self
    (hShown : Shown lent.state) :
    lent.Stage 0 Shown lent :=
  ⟨rfl, hShown⟩

end FullState

------------------------------------------------------------
-- States that can be reached
------------------------------------------------------------

namespace Builtin

/- Exact arithmetic keeps all states normalized. -/
theorem Reachable.normalized
    {b : Builtin ℝ}
    (hReachable : b.Reachable)
    {sim : FullState ℝ}
    (hState : b = .fullState sim) :
    sim.DrawsInUnit → ∃ order, sim.Normalized order := by
  refine hReachable.fullState_induction
    (fun sim =>
      sim.DrawsInUnit → ∃ order, sim.Normalized order)
    ?_ ?_ hState
  · intro init hFresh hDraws
    exact ⟨[], .of_fresh hFresh hDraws⟩
  · intro old request ih hDraws
    have hEffect := old.effect request
    have hBefore : old.DrawsInUnit := by
      intro n
      rw [← hEffect.sameSettings.draws_eq]
      exact hDraws n
    rcases ih hBefore with ⟨order, hNormalized⟩
    exact ⟨_, hNormalized.step hEffect⟩

/- A run of requests goes on to a state that can be reached. -/
theorem Reachable.run_fullState
    {sim : FullState ℝ}
    (hReachable : (Builtin.fullState sim).Reachable)
    (requests : List (Request ℝ)) :
    (Builtin.fullState (runRequests sim requests).2).Reachable := by
  have hRun := hReachable.run requests
  rwa [fullState_morphism.runRequests_eq] at hRun

/- At every stage a draw decides about a live qubit. -/
theorem Reachable.decides
    {lent sim : FullState ℝ}
    (hReachable : (Builtin.fullState sim).Reachable)
    {spent position : Nat}
    {Shown : StateVector ℝ → Prop}
    (hStage : lent.Stage spent Shown sim)
    (hDraws : lent.DrawsInUnit)
    {q : QubitId}
    (hLive : lent.qubits.get? q = some position) :
    sim.qubits.get? q = some position ∧
      lent.Decides spent position sim.state := by
  have hDrawsHere : sim.DrawsInUnit := by
    intro n
    rw [hStage.draws_eq]
    exact hDraws n
  have hHere : sim.qubits.get? q = some position := by
    rw [hStage.qubits_eq]
    exact hLive
  rcases hReachable.normalized rfl hDrawsHere with
    ⟨order, hNormalized⟩
  have hPicks : sim.PicksPossible position :=
    hNormalized.picksPossible hHere .z
  refine ⟨hHere, hNormalized.weight_eq,
    hNormalized.dense.position_lt hHere, ?_⟩
  rw [← hStage.nextOutcome_eq]
  exact hPicks.1

/- The backend is a simulator at some stage. -/
def InStage
    (lent : FullState ℝ)
    (spent : Nat)
    (Shown : StateVector ℝ → Prop) : Builtin ℝ → Prop
  | fullState sim => lent.Stage spent Shown sim
  | _ => False

end Builtin

------------------------------------------------------------
-- Programs that change the stage
------------------------------------------------------------

namespace Mount

variable {n : Nat} {β α γ : Type} [Backend ℝ β]
variable (mount : Mount ℝ n β) (lent : FullState ℝ)

/-
  A program takes state vectors with some property to others,
  and the property that they have may depend on its answer. It
  has spent a number of draws before and another one after.
-/
def Evolves
    (spent : Nat)
    (Before : StateVector ℝ → Prop)
    (program : Program n β α)
    (later : Nat)
    (After : α → StateVector ℝ → Prop) : Prop :=
  mount.Establishes (Builtin.InStage lent spent Before) program
    fun a => Builtin.InStage lent later (After a)

variable {mount lent}

namespace Evolves

variable {spent later last position mask : Nat} {q : QubitId}
variable {Before Before' : StateVector ℝ → Prop}
variable {program : Program n β α} {next : α → Program n β γ}
variable {After After' : α → StateVector ℝ → Prop}
variable {Last : γ → StateVector ℝ → Prop}

theorem pure
    {a : α}
    (hHere : ∀ s, Before s → After a s) :
    mount.Evolves lent spent Before (Pure.pure a) spent After := by
  apply Establishes.pure
  intro b hStage
  cases b with
  | fullState sim =>
      exact ⟨hStage.rest_eq, hHere _ hStage.shown⟩
  | _ => exact hStage.elim

theorem bind
    (hFirst : mount.Evolves lent spent Before program later After)
    (hNext :
      ∀ a, mount.Evolves lent later (After a) (next a) last Last) :
    mount.Evolves lent spent Before (program >>= next) last Last :=
  Establishes.bind hFirst hNext

/- Less may be asked for and more may be known. -/
theorem mono
    (hProgram :
      mount.Evolves lent spent Before program later After)
    (hBefore : ∀ s, Before' s → Before s)
    (hAfter : ∀ a s, After a s → After' a s) :
    mount.Evolves lent spent Before' program later After' := by
  apply Establishes.mono hProgram
  · intro b hStage
    cases b with
    | fullState sim =>
        exact ⟨hStage.rest_eq, hBefore _ hStage.shown⟩
    | _ => exact hStage.elim
  · intro a b hStage
    cases b with
    | fullState sim =>
        exact ⟨hStage.rest_eq, hAfter a _ hStage.shown⟩
    | _ => exact hStage.elim

/- A program on simulators takes each stage to the next. -/
theorem of_balanced
    (hProgram :
      ∀ sim : FullState ℝ,
        (Builtin.fullState sim).Reachable →
        lent.Stage spent Before sim →
        ∃ a requests after,
          mount.Balanced program (.fullState sim) a requests
              (.fullState after) ∧
            lent.Stage later (After a) after) :
    mount.Evolves lent spent Before program later After := by
  intro b hReachable hStage
  cases b with
  | fullState sim =>
      rcases hProgram sim hReachable hStage with
        ⟨a, requests, after, hBalanced, hLater⟩
      exact ⟨a, requests, .fullState after, hBalanced, hLater⟩
  | _ => exact hStage.elim

/- A gate call that the lent qubits allow applies its gate. -/
theorem gate
    (call : GateCall ℝ)
    (hTakes : lent.Takes call mask position)
    {After : StateVector ℝ → Prop}
    (hGate :
      ∀ s, position < s.qubitCount → Before s →
        After (s.applyGate call.gate mask position)) :
    mount.Evolves lent spent Before call.program spent
      fun _ => After := by
  apply of_balanced
  intro sim hReachable hStage
  rcases hReachable.dense rfl with ⟨order, hDense⟩
  have hHere : sim.Takes call mask position := by
    constructor
    · rw [hStage.qubits_eq]
      exact hTakes.target_live
    · rw [hStage.qubits_eq]
      exact hTakes.mask_eq
    · exact hTakes.distinct
  have hRun :
      call.request.run.perform (Builtin.fullState sim) =
        (.ok .done,
          .fullState (sim.applied call.gate mask position)) := by
    rw [Builtin.fullState_morphism.run_eq, hHere.perform_run]
  refine ⟨(), _, _, .of_gate hReachable hRun, ?_, ?_⟩
  · rw [hStage.rest_eq]
    rfl
  · exact hGate sim.state
      (hDense.position_lt hHere.target_live) hStage.shown

/- A measurement collapses onto the outcome of its draw. -/
theorem measureBit
    (hDraws : lent.DrawsInUnit)
    (hLive : lent.qubits.get? q = some position)
    {After : Bool → StateVector ℝ → Prop}
    (hCollapse :
      ∀ s, lent.Decides spent position s → Before s →
        After (lent.outcomeOf spent position s)
          (s.collapse position (lent.outcomeOf spent position s))) :
    mount.Evolves lent spent Before (Intrinsic.measureBit q)
      (spent + 1) After := by
  apply of_balanced
  intro sim hReachable hStage
  rcases hReachable.decides hStage hDraws hLive with
    ⟨hHere, hDecides⟩
  have hHolds : (Builtin.fullState sim).Holds (.qubit q) :=
    (sim.qubits.live_iff q).mpr ⟨position, hHere⟩
  rcases Balanced.exists_measureBit mount hReachable hHolds with
    ⟨bit, requests, after, hBalanced, hAfter⟩
  cases hAfter with
  | fullState _ found results hFound =>
      cases hHere.symm.trans hFound
      have hShown := hCollapse sim.state hDecides hStage.shown
      rw [← hStage.nextOutcome_eq] at hShown
      refine ⟨_, requests, _, hBalanced, ?_, hShown⟩
      show { sim.collapsed position with results := results } = _
      rw [FullState.collapsed, hStage.rest_eq]
      rfl

/- A reset leaves the branch of its outcome, brought to zero. -/
theorem reset
    (hDraws : lent.DrawsInUnit)
    (hLive : lent.qubits.get? q = some position)
    {After : StateVector ℝ → Prop}
    (hReset :
      ∀ s, lent.Decides spent position s → Before s →
        After
          (s.reset position (lent.outcomeOf spent position s))) :
    mount.Evolves lent spent Before (Intrinsic.reset q)
      (spent + 1) fun _ => After := by
  apply of_balanced
  intro sim hReachable hStage
  rcases hReachable.decides hStage hDraws hLive with
    ⟨hHere, hDecides⟩
  have hHolds : (Builtin.fullState sim).Holds (.qubit q) :=
    (sim.qubits.live_iff q).mpr ⟨position, hHere⟩
  rcases Balanced.exists_reset mount hReachable hHolds with
    ⟨requests, after, hBalanced, hAfter⟩
  cases hAfter with
  | fullState _ after found hFound hAt =>
      cases hHere.symm.trans hFound
      have hQuotients : Scalar.DividesZero ℝ :=
        fun x _ => zero_div x
      have hState :
          after.state =
            sim.state.reset position (sim.nextOutcome position) := by
        apply StateVector.ext_amplitude (by simp [hAt.count])
        intro i _
        rw [hAt.amplitude hQuotients,
          StateVector.amplitude_reset hQuotients sim.state
            hDecides.position_lt]
      refine ⟨(), requests, after, hBalanced, ?_, ?_⟩
      · rw [hAt.rest, hStage.rest_eq]
        rfl
      · rw [hState, hStage.nextOutcome_eq]
        exact hReset sim.state hDecides hStage.shown

/- A gate without controls acts at the position of its target. -/
theorem apply
    {g : Gate ℝ}
    (hLive : lent.qubits.get? q = some position)
    {After : StateVector ℝ → Prop}
    (hGate :
      ∀ s, position < s.qubitCount → Before s →
        After (s.applyGate g 0 position)) :
    mount.Evolves lent spent Before (Context.apply g q) spent
      fun _ => After :=
  gate (.plain g q) ⟨hLive, rfl, rfl⟩ hGate

/- A controlled flip acts under the position of its control. -/
theorem cnot
    {control target : QubitId}
    {position' : Nat}
    (hControl : lent.qubits.get? control = some position)
    (hTarget : lent.qubits.get? target = some position')
    (hOther : control ≠ target)
    {After : StateVector ℝ → Prop}
    (hGate :
      ∀ s, position' < s.qubitCount → Before s →
        After (s.applyGate .x (2 ^ position) position')) :
    mount.Evolves lent spent Before
      (Intrinsic.cnot (R := ℝ) control target) spent
      fun _ => After :=
  gate (.controlled .x [control] target)
    (FullState.takes_controlledFlip hControl hTarget hOther) hGate

/- A gate under a condition acts only if it is met. -/
theorem applyIf
    {condition : Bool}
    {g : Gate ℝ}
    (hLive : lent.qubits.get? q = some position)
    {After : StateVector ℝ → Prop}
    (hGate :
      condition = true →
        ∀ s, position < s.qubitCount → Before s →
          After (s.applyGate g 0 position))
    (hKeep :
      condition = false → ∀ s, Before s → After s) :
    mount.Evolves lent spent Before
      (Intrinsic.applyIf condition g q) spent fun _ => After := by
  cases condition with
  | false => exact pure (hKeep rfl)
  | true => exact apply hLive (hGate rfl)

/- What is known before a program may be used in it. -/
theorem assuming
    {Known : Prop}
    (hProgram :
      Known →
        mount.Evolves lent spent Before program later After) :
    mount.Evolves lent spent (fun s => Known ∧ Before s) program
      later After := by
  by_cases hKnown : Known
  · exact (hProgram hKnown).mono (fun _ hBoth => hBoth.2)
      fun _ _ hAfter => hAfter
  · intro b _ hStage
    cases b with
    | fullState => exact absurd hStage.shown.1 hKnown
    | _ => exact hStage.elim

/- A program may start from a place of an array. -/
theorem fromQubitAt
    {qs : List QubitId}
    {index : Nat}
    {next : QubitId → Program n β α}
    (hAt : qs[index]? = some q)
    (hNext : mount.Evolves lent spent Before (next q) later After) :
    mount.Evolves lent spent Before
      (Protocol.qubitAt qs index >>= next) later After := by
  rw [Protocol.qubitAt, hAt]
  exact hNext

end Evolves

end Mount

------------------------------------------------------------
-- Qubits that have just been lent
------------------------------------------------------------

namespace FullState

variable {sim lent : FullState ℝ} {qs : List QubitId}

/-
  Allocations add qubits that are zero: all amplitudes stay, and
  no draw is spent.
-/
theorem amplitude_issued
    (hIssued :
      runRequests sim (List.replicate qs.length .allocateQubit) =
        (issuing qs, lent)) :
    lent.state.amplitude = sim.state.amplitude ∧
      lent.draws = sim.draws ∧
      lent.drawn = sim.drawn := by
  induction qs generalizing sim with
  | nil =>
      cases hIssued
      exact ⟨rfl, rfl, rfl⟩
  | cons first rest ih =>
      rw [List.length_cons, List.replicate_succ, runRequests_cons]
        at hIssued
      rcases Prod.mk.inj hIssued with ⟨hAnswers, hAfter⟩
      rcases List.cons.inj hAnswers with ⟨hFirst, hRest⟩
      have hRoom : sim.qubits.liveCount < sim.maxQubits := by
        rw [← not_le]
        intro hFull
        rw [Request.run_allocateQubit
          (perform_allocateQubit_of_full hFull)] at hFirst
        cases hFirst
      have hThere :
          (Request.allocateQubit.run.perform sim).2 =
            sim.allocated := by
        rw [Request.run_allocateQubit
          (perform_allocateQubit_of_room hRoom)]
      rw [hThere] at hRest hAfter
      rcases ih (Prod.ext hRest hAfter) with
        ⟨hState, hDraws, hDrawn⟩
      refine ⟨?_, hDraws, hDrawn⟩
      rw [hState]
      exact funext (StateVector.amplitude_addQubit sim.state)

/- The position of a live qubit. -/
def place
    {R : Type}
    (sim : FullState R)
    (q : QubitId) : Nat :=
  (sim.qubits.get? q).getD 0

theorem place_eq
    {R : Type}
    {sim : FullState R}
    {q : QubitId}
    {position : Nat}
    (hLive : sim.qubits.get? q = some position) :
    sim.place q = position := by
  rw [place, hLive]
  rfl

/- All of some qubits have the same bit for certain. -/
def AllSettled
    (lent : FullState ℝ)
    (qs : List QubitId)
    (bit : Bool)
    (s : StateVector ℝ) : Prop :=
  ∀ q ∈ qs, s.Settled (lent.place q) bit

/-
  A simulator has just lent some qubits: they are different and
  zero, and the same draws come next.
-/
structure JustLent
    (sim : FullState ℝ)
    (qs : List QubitId)
    (lent : FullState ℝ) : Prop where
  draws_eq :
    lent.draws = sim.draws
  drawn_eq :
    lent.drawn = sim.drawn
  nodup :
    qs.Nodup
  live :
    ∀ q ∈ qs, lent.qubits.get? q = some (lent.place q)
  place_ne :
    ∀ q ∈ qs, ∀ q' ∈ qs, q ≠ q' → lent.place q ≠ lent.place q'
  settled :
    lent.AllSettled qs false lent.state

/- Qubits that are lent are at the places after the others. -/
theorem Dense.justLent
    {order : List QubitId}
    (hDense : sim.Dense order)
    (hIssued :
      runRequests sim (List.replicate qs.length .allocateQubit) =
        (issuing qs, lent)) :
    sim.JustLent qs lent := by
  have hLent := hDense.issued hIssued
  rcases amplitude_issued hIssued with ⟨hState, hDraws, hDrawn⟩
  have hPlace (q : QubitId) (hMem : q ∈ qs) :
      ∃ index,
        lent.qubits.get? q = some (order.length + index) := by
    rcases List.mem_iff_getElem?.mp hMem with ⟨index, hAt⟩
    refine ⟨index, ?_⟩
    rw [hLent.position_iff, List.getElem?_append_right (by omega)]
    simpa using hAt
  have hLive (q : QubitId) (hMem : q ∈ qs) :
      lent.qubits.get? q = some (lent.place q) := by
    rcases hPlace q hMem with ⟨index, hAt⟩
    rw [place_eq hAt]
    exact hAt
  refine
    { draws_eq := hDraws
      drawn_eq := hDrawn
      nodup := (List.nodup_append.mp hLent.nodup).2.1
      live := hLive
      place_ne := fun q hMem q' hMem' hOther hSame => ?_
      settled := fun q hMem i _ hBit => ?_ }
  · have hThere := hLive q' hMem'
    rw [← hSame] at hThere
    exact hOther
      (hLent.eq_of_position (hLive q hMem) hThere)
  · -- An index with the new bit set lies past the old state.
    rcases hPlace q hMem with ⟨index, hAt⟩
    rw [place_eq hAt] at hBit
    have hPast : 2 ^ (order.length + index) ≤ i :=
      Nat.ge_two_pow_of_testBit (Bool.not_eq_false _ ▸ hBit)
    rw [hState]
    apply sim.state.amplitude_of_le
    rw [hDense.qubitCount_eq]
    exact (Nat.pow_le_pow_right (by omega) (by omega)).trans hPast

end FullState

------------------------------------------------------------
-- Answers of programs that borrow qubits
------------------------------------------------------------

namespace Builtin

variable {sim : FullState ℝ} {qs : List QubitId}

/- A simulator that lends qubits has just lent them. -/
theorem Lends.exists_justLent
    {after : Builtin ℝ}
    (hLends : (Builtin.fullState sim).Lends qs after)
    (hReachable : (Builtin.fullState sim).Reachable) :
    ∃ lent, after = .fullState lent ∧ sim.JustLent qs lent := by
  rcases hReachable.dense rfl with ⟨order, hDense⟩
  have hRun := hLends.run_eq
  rw [fullState_morphism.runRequests_eq] at hRun
  rcases Prod.mk.inj hRun with ⟨hIssued, rfl⟩
  exact ⟨_, rfl, hDense.justLent (Prod.ext hIssued rfl)⟩

/-
  A program that borrows qubits of the simulator gives the answer
  that its body gives on qubits that are zero.
-/
theorem exists_balanced_withQubits
    {n : Nat}
    {β α : Type}
    [Backend ℝ β]
    (mount : Mount ℝ n β)
    (hReachable : (Builtin.fullState sim).Reachable)
    {count : Nat}
    (hRoom : sim.qubits.liveCount + count ≤ sim.maxQubits)
    {body : List QubitId → Program n β α}
    {answer : α}
    (hBody :
      ∀ qs lent, qs.length = count → sim.JustLent qs lent →
        ∃ later,
          mount.Evolves lent 0 (lent.AllSettled qs false) (body qs)
            later fun a _ => a = answer) :
    ∃ requests last,
      mount.Balanced (Allocation.withQubits count body)
        (.fullState sim) answer requests last := by
  rcases exists_lends (b := .fullState sim) hRoom with
    ⟨qs, after, rfl, hLends⟩
  rcases hLends.exists_justLent hReachable with ⟨lent, rfl, hLent⟩
  rcases hBody qs lent rfl hLent with ⟨later, hEvolves⟩
  rcases hEvolves _ (hLends.reachable hReachable)
      (FullState.stage_self hLent.settled) with
    ⟨a, requests, used, hBalanced, hStage⟩
  cases used with
  | fullState =>
      cases hStage.shown
      exact ⟨_, _, hBalanced.withQubits hReachable hLends⟩
  | _ => exact hStage.elim

end Builtin

end QuantumRuntime

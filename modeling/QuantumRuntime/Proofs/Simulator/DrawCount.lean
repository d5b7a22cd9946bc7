import QuantumRuntime.Proofs.Simulator.LaterDraws
import QuantumRuntime.Proofs.Simulator.RepeatedMeasurement

/-
  This file proves that the simulator of the full state takes
  exactly one draw for each event that is left to chance, and
  none otherwise. So the draw that decides an event is known
  from the number of such events before it, whatever else a
  program does.

  Key definitions include:
    * `Exchange.IsChance`
    * `chanceCount`

  Key theorems include:
    * `FullState.Effect.drawn_eq`
    * `FullState.drawn_run`
    * `FullState.records_picked`
    * `FullState.each_chance_event_takes_its_draw`
-/

namespace QuantumRuntime

variable {R : Type}

------------------------------------------------------------
-- Events left to chance
------------------------------------------------------------

namespace Exchange

/-
  A qubit was released, or was measured in a basis that is not
  trivial.
-/
def IsChance : Exchange R → Prop
  | (.releaseQubit _, .ok _) => True
  | (.measure bases _, .ok _) => bases ∈ [[.x], [.y], [.z]]
  | _ => False

instance
    (event : Exchange R) :
    Decidable event.IsChance := by
  rcases event with ⟨_ | _, _ | _⟩ <;>
    unfold IsChance <;>
    infer_instance

@[simp] theorem not_isChance_error
    (request : Request R)
    (e : BackendError) :
    ¬ IsChance (request, .error e) := by
  cases request <;> exact id

@[simp] theorem isChance_measured_iff
    (basis : Pauli)
    (targets : List QubitId)
    (reply : Reply) :
    IsChance (R := R) (.measure [basis] targets, .ok reply) ↔
      basis ≠ .i := by
  cases basis <;> simp [IsChance]

end Exchange

/- The number of events that were left to chance. -/
def chanceCount
    (history : List (Exchange R)) : Nat :=
  history.countP fun event => event.IsChance

@[simp] theorem chanceCount_concat
    (history : List (Exchange R))
    (event : Exchange R) :
    chanceCount (history ++ [event]) =
      chanceCount history + if event.IsChance then 1 else 0 := by
  simp [chanceCount, List.countP_cons]

namespace FullState

variable [Scalar R] {sim sim' : FullState R}

------------------------------------------------------------
-- Counting draws
------------------------------------------------------------

/- A request takes one draw if it is left to chance, else none. -/
theorem Effect.drawn_eq
    {request : Request R}
    {answer : Except BackendError Reply}
    (hEffect : sim.Effect request answer sim') :
    sim'.drawn =
      sim.drawn +
        if Exchange.IsChance (request, answer) then 1 else 0 := by
  cases hEffect with
  | refused request e => simp
  | released q position hLive => rfl
  | measured bases targets basis target position bit state
      hSingle =>
      obtain ⟨rfl, rfl⟩ := singleMeasurement_eq_ok hSingle
      simp only [Exchange.isChance_measured_iff, ne_eq, ite_not]
  | _ => rfl

/- A run takes as many draws as events are left to chance. -/
theorem drawn_run
    (sim : FullState R)
    (requests : List (Request R)) :
    (runRequests sim requests).2.drawn =
      sim.drawn +
        chanceCount (requests.zip (runRequests sim requests).1) := by
  have hStart :
      sim.drawn = sim.drawn + chanceCount ([] : List (Exchange R)) :=
    rfl
  refine runRequests_induction
    (P := fun (history : List (Exchange R)) (sim' : FullState R) =>
      sim'.drawn = sim.drawn + chanceCount history)
    ?_ hStart requests
  intro history sim' request hDrawn
  rw [(sim'.effect request).drawn_eq, hDrawn, chanceCount_concat,
    Nat.add_assoc]

------------------------------------------------------------
-- Spending a draw
------------------------------------------------------------

/- A released qubit is measured with the draw whose turn it is. -/
theorem released_state_eq
    (q : QubitId)
    (position : Nat)
    (sim : FullState R) :
    let measured :=
      sim.state.measure position (sim.draws sim.drawn)
    (sim.released q position).state =
      (if measured.1 then
          measured.2.applyGate .x 0 position
        else
          measured.2).removeQubit position :=
  rfl

/-
  A measurement in a basis records the outcome that the draw
  whose turn it is picks in the turned state.
-/
theorem records_picked
    {history : List (Exchange R)}
    (hLedger : Ledger history sim.results)
    {q : QubitId}
    {position : Nat}
    (hLive : sim.qubits.get? q = some position)
    {basis : Pauli}
    (hBasis : basis ≠ .i) :
    ∃ r after,
      Records basis q
        ((sim.turnedTo basis position).state.measure position
          (sim.draws sim.drawn)).1
        sim r after := by
  rcases sim.perform_measureAt position basis with
    ⟨bit, state, hMeasured, -⟩
  have hTurned := perform_measureAt_turned hBasis position sim
  have hBit : bit = (sim.turnedTo basis position).nextOutcome position :=
    Except.ok.inj
      (congrArg Prod.fst (hMeasured.symm.trans hTurned))
  have hDraw :
      (sim.turnedTo basis position).nextOutcome position =
        ((sim.turnedTo basis position).state.measure position
          (sim.draws sim.drawn)).1 := by
    cases basis <;> rfl
  rw [← hDraw, ← hBit]
  let measured : FullState R :=
    { sim with
      state := state
      drawn := sim.drawn + if basis = .i then 0 else 1 }
  have hBefore : Ledger history measured.results := hLedger
  exact ⟨_, _, records_of_measureAt hBefore hLive hMeasured⟩

/-
  In every state that a run reaches, as many draws were taken as
  there were events left to chance, say `k`. Whatever comes next
  takes one more draw if it is such an event and none otherwise,
  and does not depend on any draw but that with number `k`, or
  on none. A qubit that is released then is collapsed by that
  draw, and one that is measured then in a basis is recorded as
  what that draw picks in the turned state.
-/
theorem each_chance_event_takes_its_draw
    {init : FullState R}
    (hFresh : init.Fresh)
    (requests : List (Request R)) :
    let run := runRequests init requests
    let sim := run.2
    let k := chanceCount (requests.zip run.1)
    sim.drawn = k ∧
      (∀ request : Request R,
        let answer := (request.run.perform sim).1
        let after := (request.run.perform sim).2
        let event : Exchange R := (request, answer)
        (after.drawn = if event.IsChance then k + 1 else k) ∧
          ∀ draws : Draws R,
            (event.IsChance → draws k = init.draws k) →
              request.run.perform (sim.redrawn draws) =
                (answer, after.redrawn draws)) ∧
      ∀ q position, sim.qubits.get? q = some position →
        (∃ after,
          (Request.releaseQubit q).run.perform sim =
              (.ok .done, after) ∧
            let measured :=
              sim.state.measure position (init.draws k)
            after.state =
              (if measured.1 then
                  measured.2.applyGate .x 0 position
                else
                  measured.2).removeQubit position) ∧
          ∀ basis, basis ≠ .i →
            ∃ r after,
              Records basis q
                ((sim.turnedTo basis position).state.measure
                  position (init.draws k)).1
                sim r after := by
  intro run sim k
  have hDrawn : sim.drawn = k := by
    rw [show sim.drawn = _ from init.drawn_run requests,
      hFresh.drawn_eq, Nat.zero_add]
  have hDraws : sim.draws = init.draws :=
    (init.sameSettings_run requests).draws_eq
  refine ⟨hDrawn, ?_, ?_⟩
  · intro request answer after event
    have hAfter := (sim.effect request).drawn_eq
    rw [hDrawn] at hAfter
    constructor
    · rw [hAfter]
      split <;> rfl
    · intro draws hSame
      apply run_redrawn
      intro hTaken
      rw [hDrawn, hDraws]
      apply hSame
      by_contra hKept
      rw [hAfter, if_neg hKept, hDrawn] at hTaken
      exact Nat.lt_irrefl _ hTaken
  · intro q position hLive
    rcases exists_ledger hFresh requests with ⟨history, hLedger⟩
    rw [← hDrawn, ← hDraws]
    constructor
    · refine ⟨sim.released q position, ?_,
        sim.released_state_eq q position⟩
      rw [Request.run_releaseQubit
        (perform_releaseQubit_of_live hLive)]
      rfl
    · intro basis hBasis
      exact records_picked hLedger hLive hBasis

/-
  After a gate, a measurement in the trivial basis, one in a
  turned basis and one that is refused, the release of a qubit
  takes the second draw of the seed.
-/
theorem second_event_takes_second_draw :
    let init : FullState Float := start (Draws.seeded 7)
    let requests : List (Request Float) :=
      [.allocateQubit, .apply .h ⟨0⟩, .measure [.i] [⟨0⟩],
        .measure [.x] [⟨0⟩], .measure [.z] [⟨7⟩]]
    let sim := (runRequests init requests).2
    init.Fresh ∧
      sim.drawn = 1 ∧
      sim.qubits.get? ⟨0⟩ = some 0 ∧
      ∃ after,
        (Request.releaseQubit ⟨0⟩).run.perform sim =
            (.ok .done, after) ∧
          let measured := sim.state.measure 0 (Draws.seeded 7 1)
          after.state =
            (if measured.1 then
                measured.2.applyGate .x 0 0
              else
                measured.2).removeQubit 0 := by
  intro init requests sim
  have hFresh : init.Fresh := .start _
  have hCount :
      chanceCount (requests.zip (runRequests init requests).1) = 1 :=
    rfl
  have hLive : sim.qubits.get? ⟨0⟩ = some 0 := rfl
  rcases each_chance_event_takes_its_draw hFresh requests with
    ⟨hDrawn, -, hEvents⟩
  have hRelease := (hEvents ⟨0⟩ 0 hLive).1
  rw [hCount] at hDrawn hRelease
  exact ⟨hFresh, hDrawn, hLive, hRelease⟩

end FullState

end QuantumRuntime

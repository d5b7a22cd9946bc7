import QuantumRuntime.Proofs.OverlookedChanges
import QuantumRuntime.Proofs.Simulator.GateCalls
import QuantumRuntime.Proofs.Simulator.PossibleOutcomes

/-
  This file proves that what a simulator has become depends on
  the draws that it has taken and not on those still to come: a
  state that can be reached with one stream of draws can be
  reached with any stream that gave the same draws so far.

  Key definitions include:
    * `FullState.redrawn`

  Key theorems include:
    * `FullState.overlooks_measureBit`
    * `FullState.run_redrawn`
    * `Builtin.Reachable.redrawn`
-/

namespace QuantumRuntime

variable {R : Type} [Scalar R]

namespace FullState

open QuantumRuntime.Action (overlooks_pure overlooks_throw
  overlooks_query overlooks_modify overlooks_get_bind
  overlooks_modify_bind overlooks_ofExcept_bind)

------------------------------------------------------------
-- Requests under another stream
------------------------------------------------------------

/- The simulator with another stream of draws. -/
def redrawn
    {R : Type}
    (draws : Draws R)
    (sim : FullState R) : FullState R :=
  { sim with draws := draws }

variable {sim : FullState R} {draws : Draws R}

theorem overlooks_applyAt
    (g : Gate R)
    (mask position : Nat) :
    (applyAt g mask position).Overlooks (redrawn draws) sim :=
  overlooks_modify rfl

/- A gate leaves the turn with the same draw. -/
theorem overlooks_applyAt_bind
    {g : Gate R}
    {mask position : Nat}
    {α : Type}
    {next : Unit → Action (FullState R) BackendError α}
    (hDraw : draws sim.drawn = sim.draws sim.drawn)
    (hNext :
      ∀ turned : FullState R,
        draws turned.drawn = turned.draws turned.drawn →
          (next ()).Overlooks (redrawn draws) turned) :
    (applyAt g mask position >>= next).Overlooks (redrawn draws)
      sim := by
  refine (overlooks_applyAt g mask position).bind
    fun _ turned hTurned => ?_
  cases hTurned
  exact hNext _ hDraw

/- An outcome depends on the draw whose turn it is. -/
theorem overlooks_measureBit
    (hDraw : draws sim.drawn = sim.draws sim.drawn)
    (position : Nat) :
    (measureBit position).Overlooks (redrawn draws) sim := by
  apply overlooks_get_bind
  · dsimp only [redrawn]
    rw [hDraw]
  · exact overlooks_modify_bind rfl (overlooks_pure _)

/- A measurement in a basis takes at most one draw. -/
theorem overlooks_measureAt
    {basis : Pauli}
    (hDraw : basis ≠ .i → draws sim.drawn = sim.draws sim.drawn)
    (position : Nat) :
    (measureAt position basis).Overlooks (redrawn draws) sim := by
  cases basis with
  | i => exact overlooks_pure false
  | z => exact overlooks_measureBit (hDraw nofun) position
  | x =>
      refine overlooks_applyAt_bind (hDraw nofun)
        fun turned hTurned => ?_
      refine (overlooks_measureBit hTurned position).bind
        fun bit _ _ => ?_
      exact (overlooks_applyAt .h 0 position).bind
        fun _ _ _ => overlooks_pure bit
  | y =>
      refine overlooks_applyAt_bind (hDraw nofun)
        fun half hHalf => ?_
      refine overlooks_applyAt_bind hHalf fun turned hTurned => ?_
      refine (overlooks_measureBit hTurned position).bind
        fun bit _ _ => ?_
      refine (overlooks_applyAt .h 0 position).bind fun _ _ _ => ?_
      exact (overlooks_applyAt .s 0 position).bind
        fun _ _ _ => overlooks_pure bit

theorem overlooks_allocateQubit :
    allocateQubit.Overlooks (redrawn draws) sim := by
  apply overlooks_get_bind rfl
  split
  · exact overlooks_throw _
  · exact overlooks_modify_bind rfl (overlooks_pure _)

theorem overlooks_releaseQubit
    {q : QubitId}
    (hDraw :
      ∀ position, sim.qubits.get? q = some position →
        draws sim.drawn = sim.draws sim.drawn) :
    (releaseQubit q).Overlooks (redrawn draws) sim := by
  apply overlooks_get_bind rfl
  refine overlooks_ofExcept_bind fun released hReleased => ?_
  refine Action.Overlooks.bind (overlooks_modify rfl)
    fun _ without hWithout => ?_
  have hThere :
      draws without.drawn = without.draws without.drawn := by
    cases hWithout
    cases hKey : sim.qubits.get? q with
    | some position => exact hDraw position hKey
    | none =>
        rw [HandleTable.release_of_dead hKey] at hReleased
        cases hReleased
  refine (overlooks_measureBit hThere released.1).bind
    fun bit _ _ => ?_
  dsimp only
  split
  · exact (overlooks_applyAt .x 0 released.1).bind
      fun _ _ _ => overlooks_modify rfl
  · exact overlooks_modify rfl

theorem overlooks_apply
    (g : Gate R)
    (target : QubitId) :
    (apply g target).Overlooks (redrawn draws) sim := by
  apply overlooks_get_bind rfl
  exact overlooks_ofExcept_bind fun position _ =>
    overlooks_applyAt g 0 position

theorem overlooks_applyControlled
    (g : Gate R)
    (controls : List QubitId)
    (target : QubitId) :
    (applyControlled g controls target).Overlooks (redrawn draws)
      sim := by
  apply overlooks_get_bind rfl
  refine overlooks_ofExcept_bind fun position _ => ?_
  refine overlooks_ofExcept_bind fun mask _ => ?_
  exact overlooks_ofExcept_bind fun _ _ =>
    overlooks_applyAt g mask position

theorem overlooks_measure
    {bases : List Pauli}
    {targets : List QubitId}
    (hDraw :
      ∀ basis target position,
        singleMeasurement sim.name bases targets =
            .ok (basis, target) →
          sim.qubits.get? target = some position →
          basis ≠ .i →
            draws sim.drawn = sim.draws sim.drawn) :
    (measure bases targets).Overlooks (redrawn draws) sim := by
  apply overlooks_get_bind rfl
  refine overlooks_ofExcept_bind fun single hSingle => ?_
  refine overlooks_ofExcept_bind fun position hPosition => ?_
  have hHere (hBasis : single.1 ≠ .i) :
      draws sim.drawn = sim.draws sim.drawn := by
    cases hKey : sim.qubits.get? single.2 with
    | some position =>
        exact hDraw single.1 single.2 position hSingle hKey hBasis
    | none =>
        rw [HandleTable.get_of_dead hKey] at hPosition
        cases hPosition
  refine (overlooks_measureAt hHere position).bind fun bit _ _ => ?_
  apply overlooks_get_bind rfl
  exact overlooks_modify_bind rfl (overlooks_pure _)

omit [Scalar R] in
theorem overlooks_releaseResult
    (r : ResultId) :
    (releaseResult r).Overlooks (redrawn draws) sim := by
  unfold releaseResult
  split
  · exact overlooks_pure _
  · apply overlooks_get_bind rfl
    exact overlooks_ofExcept_bind fun _ _ => overlooks_modify rfl

/-
  A request answers alike under a stream that gives the same
  draw for it, if it takes one.
-/
theorem run_redrawn
    (request : Request R)
    (hSame :
      sim.drawn < (request.run.perform sim).2.drawn →
        draws sim.drawn = sim.draws sim.drawn) :
    request.run.perform (sim.redrawn draws) =
      ((request.run.perform sim).1,
        (request.run.perform sim).2.redrawn draws) := by
  cases request with
  | allocateQubit => exact overlooks_allocateQubit.map _
  | releaseQubit q =>
      refine (overlooks_releaseQubit fun position hKey =>
        hSame ?_).map _
      rw [Request.run_releaseQubit
        (perform_releaseQubit_of_live hKey)]
      exact Nat.lt_succ_self _
  | apply g target => exact (overlooks_apply g target).map _
  | applyControlled g controls target =>
      exact (overlooks_applyControlled g controls target).map _
  | measure bases targets =>
      refine (overlooks_measure
        fun basis target position hSingle hKey hBasis =>
          hSame ?_).map _
      rcases sim.perform_measureAt position basis with
        ⟨bit, state, hMeasured, -⟩
      rw [Request.run_measure
        (perform_measure_of_live hSingle hKey hMeasured)]
      dsimp only
      rw [if_neg hBasis]
      exact Nat.lt_succ_self _
  | areEqualResults r₁ r₂ => exact (overlooks_query rfl).map _
  | releaseResult r => exact (overlooks_releaseResult r).map _
  | resultValue r => exact (overlooks_query rfl).map _

/- Draws are taken one after the other. -/
theorem Effect.drawn_le
    {sim' : FullState R}
    {request : Request R}
    {answer : Except BackendError Reply}
    (hEffect : sim.Effect request answer sim') :
    sim.drawn ≤ sim'.drawn := by
  cases hEffect with
  | released => exact Nat.le_succ _
  | measured => exact Nat.le_add_right _ _
  | _ => exact Nat.le_refl _

------------------------------------------------------------
-- States under another stream
------------------------------------------------------------

/- A simulator may be made with any stream. -/
theorem Fresh.redrawn
    (hFresh : sim.Fresh)
    (draws : Draws R) :
    (sim.redrawn draws).Fresh := by
  induction hFresh with
  | start => exact .start draws
  | ofSettings source settings sim hMade =>
      let other : DrawSource R :=
        { seeded := fun _ => draws
          unseeded := draws }
      have hUnlimited :
          unlimited other settings =
            (unlimited source settings).redrawn draws := by
        unfold unlimited
        dsimp only
        split <;> split <;> rfl
      apply Fresh.ofSettings other settings
      rw [ofSettings_eq] at hMade ⊢
      rw [hUnlimited]
      split at hMade
      · cases hMade
        rfl
      · split at hMade
        · next hCount =>
            cases hMade
            rw [if_pos hCount]
            rfl
        · cases hMade
  | withQubitReuse sim _ ih => exact ih.withQubitReuse
  | withMaxQubits count sim _ ih => exact ih.withMaxQubits count

end FullState

namespace Builtin

/-
  A state that was reached is reached as well with any stream
  that gave the same draws so far.
-/
theorem Reachable.redrawn
    {b : Builtin R}
    (hReachable : b.Reachable)
    {sim : FullState R}
    (hState : b = .fullState sim)
    {draws : Draws R} :
    (∀ k < sim.drawn, draws k = sim.draws k) →
      (Builtin.fullState (sim.redrawn draws)).Reachable := by
  refine hReachable.fullState_induction
    (fun sim =>
      (∀ k < sim.drawn, draws k = sim.draws k) →
        (Builtin.fullState (sim.redrawn draws)).Reachable)
    ?_ ?_ hState
  · intro init hFresh _
    exact .fullState _ (hFresh.redrawn draws)
  · intro old request ih hSame
    have hEffect := old.effect request
    have hThere (k : Nat)
        (hk : k < (request.run.perform old).2.drawn) :
        draws k = old.draws k := by
      rw [hSame k hk, hEffect.sameSettings.draws_eq]
    have hBefore :=
      ih fun k hk =>
        hThere k (Nat.lt_of_lt_of_le hk hEffect.drawn_le)
    have hStep := hBefore.request request
    rw [fullState_morphism.run_eq,
      FullState.run_redrawn request (hThere old.drawn)] at hStep
    exact hStep

end Builtin

end QuantumRuntime

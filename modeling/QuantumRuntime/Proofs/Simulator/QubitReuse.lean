import QuantumRuntime.Proofs.Simulator.BitReuse
import QuantumRuntime.Proofs.Simulator.StateReuse

/-
  This file proves that clients which respect lifetimes cannot
  tell whether a simulator recycles the handles of released
  qubits.

  Key theorems include:
    * `qubit_reuse_is_unobservable`
-/

namespace QuantumRuntime

section

variable {R : Type} [Scalar R]

/-
  Whether handles are recycled cannot be told by a client that
  respects lifetimes. It sees the same answers, up to the
  wording of errors, and after each of them two simulators of
  the full state have the same amplitudes and have taken the
  same draws, and two simulators of bits have the same bit for
  each live qubit.
-/
theorem qubit_reuse_is_unobservable :
    (∀ (sim sim' : FullState R) (client : Client R),
      sim.Fresh → sim'.Fresh →
      sim'.draws = sim.draws → sim'.maxQubits = sim.maxQubits →
      client.RespectsLifetimes (.start sim) →
        List.Forall₂
          (fun step step' =>
            step'.1 = step.1 ∧
              step'.2.census = step.2.census ∧
              step'.2.backend.state = step.2.backend.state ∧
              step'.2.backend.drawn = step.2.backend.drawn)
          (client.trace (.start sim))
          (client.trace (.start sim'))) ∧
      ∀ (sim sim' : Toffoli R) (client : Client R),
        sim.Fresh → sim'.Fresh → sim'.mode = sim.mode →
        client.RespectsLifetimes (.start sim) →
          List.Forall₂
            (fun step step' =>
              step'.1 = step.1 ∧
                step'.2.census = step.2.census ∧
                ∀ q ∈ step.2.census.live, ∃ bit,
                  step.2.backend.qubits.get? (step.2.handle q) =
                      some bit ∧
                    step'.2.backend.qubits.get?
                      (step'.2.handle q) = some bit)
            (client.trace (.start sim))
            (client.trace (.start sim')) := by
  constructor
  · intro sim sim' client hFresh hFresh' hDraws hLimit hRespects
    have hAlike := hFresh.alike_start hFresh' hDraws hLimit
    refine (client.forall₂_trace FullState.askedAlike hAlike
      hRespects).imp ?_
    rintro step step' ⟨hAnswer, hAfter⟩
    exact ⟨hAnswer, hAfter.census_eq, hAfter.same.state_eq,
      hAfter.same.drawn_eq⟩
  · intro sim sim' client hFresh hFresh' hMode hRespects
    have hAlike := hFresh.alike_start hFresh' hMode
    refine (client.forall₂_trace Toffoli.askedAlike hAlike
      hRespects).imp ?_
    rintro step step' ⟨hAnswer, hAfter⟩
    exact ⟨hAnswer, hAfter.census_eq, fun q hName =>
      hAfter.aligned.exists_get? hName⟩

end

/-
  The second allocation gets the handle of the released qubit if
  handles are recycled, and a client that goes on with it cannot
  tell.
-/
theorem recycled_qubit_is_not_noticed :
    let full : FullState Float := .start fun _ => 0
    let bits : Toffoli Float := .start .tracked
    let client : Client Float :=
      .ofRequests
        [.allocateQubit, .releaseQubit ⟨0⟩, .allocateQubit,
          .applyControlled .x [⟨1⟩] ⟨1⟩, .apply .x ⟨1⟩]
    List.Forall₂
        (fun step step' =>
          step'.1 = step.1 ∧
            step'.2.census = step.2.census ∧
            step'.2.backend.state = step.2.backend.state ∧
            step'.2.backend.drawn = step.2.backend.drawn)
        (client.trace (.start full.withQubitReuse))
        (client.trace (.start full)) ∧
      List.Forall₂
        (fun step step' =>
          step'.1 = step.1 ∧
            step'.2.census = step.2.census ∧
            ∀ q ∈ step.2.census.live, ∃ bit,
              step.2.backend.qubits.get? (step.2.handle q) =
                  some bit ∧
                step'.2.backend.qubits.get? (step'.2.handle q) =
                  some bit)
        (client.trace (.start bits.withQubitReuse))
        (client.trace (.start bits)) := by
  intro full bits client
  constructor
  · refine qubit_reuse_is_unobservable.1 full.withQubitReuse full
      client (.withQubitReuse _ (.start _)) (.start _) rfl rfl ?_
    -- The outcome of the measurement in a release is unknown, so
    -- the release is not computed but looked up.
    let named :=
      ((Named.start full.withQubitReuse).ask
        (.allocateQubit : Request Float)).2
    have hLive : named.backend.qubits.get? ⟨0⟩ = some 0 := rfl
    have hRelease :
        named.ask (.releaseQubit ⟨0⟩ : Request Float) = _ :=
      Named.ask_eq (Request.run_releaseQubit
        (FullState.perform_releaseQubit_of_live hLive))
    simp only [client, Client.ofRequests, Client.RespectsLifetimes]
    rw [hRelease]
    decide
  · refine qubit_reuse_is_unobservable.2 bits.withQubitReuse bits
      client (.withQubitReuse _ (.start _)) (.start _) rfl ?_
    simp only [client, Client.ofRequests, Client.RespectsLifetimes]
    decide

end QuantumRuntime

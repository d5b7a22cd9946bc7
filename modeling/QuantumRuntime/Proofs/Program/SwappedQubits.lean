import QuantumRuntime.Proofs.Scope.Runs
import QuantumRuntime.Proofs.Simulator.ExchangedQubits

/-
  This file proves that the swap of two qubits exchanges them
  and nothing else, or leaves all as it was. Only the first of
  its three flips can be refused, because the others name the
  same two qubits.

  Key theorems include:
    * `Intrinsic.perform_swap_of_accepted`
    * `Intrinsic.perform_swap_of_refused`
    * `swap_exchanges_two_qubits`
-/

namespace QuantumRuntime

variable {R : Type} [Scalar R] {n : Nat} {β : Type} [Backend R β]

------------------------------------------------------------
-- The swap as a run of requests
------------------------------------------------------------

namespace Intrinsic

variable {ctx : Context n β} {device : Fin n}
variable {first second : QubitId}

/- A flip that is accepted changes the backend alone. -/
theorem perform_cnot_of_accepted
    {control target : QubitId}
    {after : β}
    (hCurrent : ctx.currentDevice = .ok device)
    (hRun :
      (Request.controlledFlip control target).run.perform
          (ctx.devices.get device) =
        (.ok .done, after)) :
    (cnot control target).perform ctx =
      (.ok (), ctx.withDevice device after) := by
  rw [← Context.ran_of_follow hRun fun _ => rfl]
  exact Context.perform_unit_of_put_ok rfl hCurrent
    (congrArg Prod.fst hRun)

/- So does a swap whose flips are all accepted. -/
theorem perform_swap_of_accepted
    {after : β}
    (hCurrent : ctx.currentDevice = .ok device)
    (hRun :
      runRequests (ctx.devices.get device)
          (Request.exchange first second) =
        (Request.exchangeAccepted, after)) :
    (swap first second).perform ctx =
      (.ok (), ctx.withDevice device after) := by
  rcases Request.run_exchange_iff.mp hRun with
    ⟨once, twice, hOnce, hTwice, hThrice⟩
  have hThen :
      (cnot second first).perform (ctx.withDevice device once) =
        (.ok (), ctx.withDevice device twice) := by
    rw [← ctx.withDevice_withDevice device once twice]
    exact perform_cnot_of_accepted hCurrent
      (by rw [Context.get_devices_withDevice_self, hTwice])
  have hLast :
      (cnot first second).perform (ctx.withDevice device twice) =
        (.ok (), ctx.withDevice device after) := by
    rw [← ctx.withDevice_withDevice device twice after]
    exact perform_cnot_of_accepted hCurrent
      (by rw [Context.get_devices_withDevice_self, hThrice])
  rw [swap, Action.perform_bind,
    perform_cnot_of_accepted hCurrent hOnce]
  dsimp only
  rw [Action.perform_bind, hThen]
  exact hLast

/- A swap whose first flip is refused does nothing. -/
theorem perform_swap_of_refused
    (hCurrent : ctx.currentDevice = .ok device)
    {e : BackendError}
    (hRun :
      (Request.controlledFlip first second).run.perform
          (ctx.devices.get device) =
        (.error e, ctx.devices.get device)) :
    (swap first second).perform ctx =
      (.error (.backend e), ctx) := by
  have hCnot :
      (cnot first second).perform ctx =
        (.error (.backend e),
          ctx.ran device
            [Request.controlledFlip (R := R) first second]) :=
    Context.perform_of_put_error rfl hCurrent
      (congrArg Prod.fst hRun)
  rw [swap, Action.perform_bind, hCnot,
    Context.ran_eq_self hRun (Tracker.follow_error _ e)]

end Intrinsic

------------------------------------------------------------
-- Swapping two qubits
------------------------------------------------------------

/-
  In every state of every simulator, the swap of two qubits that
  are live and distinct succeeds and exchanges them: on bits
  their bits, and on the full state their bits in the index of
  each amplitude, whatever the arithmetic. It is the same from
  either side, and done twice it changes nothing, but for what
  the tracer counts. If the two are one qubit or one of them is
  not live, the caller has misused the operation, and the
  context is as before in all its parts.
-/
theorem swap_exchanges_two_qubits
    {embed : Builtin R → β}
    (hEmbed : Backend.Morphism embed)
    {b : Builtin R}
    (hReachable : b.Reachable)
    (hSimulator : b.kind ≠ .stub)
    {ctx : Context n β}
    {device : Fin n}
    (hCurrent : ctx.currentDevice = .ok device)
    (hBackend : ctx.devices.get device = embed b)
    (first second : QubitId) :
    let run := (Intrinsic.swap first second).perform ctx
    (b.Holds (.qubit first) ∧ b.Holds (.qubit second) ∧
          first ≠ second →
        (∃ after,
          run = (.ok (), ctx.withDevice device (embed after)) ∧
            Builtin.Exchanged first second b after) ∧
          (Intrinsic.swap second first).perform ctx = run ∧
          (b.kind ≠ .tracer →
            (Intrinsic.swap first second).perform run.2 =
              (.ok (), ctx))) ∧
      (first = second ∨ ¬ b.Holds (.qubit first) ∨
          ¬ b.Holds (.qubit second) →
        ∃ e : BackendError,
          run = (.error (.backend e), ctx) ∧
            e.IsContractViolation) := by
  intro run
  constructor
  · rintro ⟨hFirst, hSecond, hOther⟩
    rcases Builtin.run_exchange hReachable hFirst hSecond hOther
      with ⟨after, hRun, hExchanged, hFlipped, hTwice⟩
    let there := ctx.withDevice device (embed after)
    have hThere : there.devices.get device = embed after :=
      ctx.get_devices_withDevice_self device _
    have hStill : there.currentDevice = .ok device := hCurrent
    have hSwap : run = (.ok (), there) := by
      apply Intrinsic.perform_swap_of_accepted (R := R) hCurrent
      rw [hBackend, hEmbed.runRequests_eq, hRun]
    refine ⟨⟨after, hSwap, hExchanged⟩, ?_, fun hKind => ?_⟩
    · rw [hSwap]
      apply Intrinsic.perform_swap_of_accepted (R := R) hCurrent
      rw [hBackend, hEmbed.runRequests_eq, hFlipped]
    · have hBack :
          (Intrinsic.swap first second).perform there =
            (.ok (), there.withDevice device (embed b)) := by
        apply Intrinsic.perform_swap_of_accepted (R := R) hStill
        rw [hThere, hEmbed.runRequests_eq, hTwice hKind]
      rw [hSwap, hBack, Context.withDevice_withDevice, ← hBackend,
        Context.withDevice_get]
  · intro hBad
    rcases Builtin.refuses_exchange hSimulator hBad with
      ⟨e, hRefused, hViolation⟩
    refine ⟨e, ?_, hViolation⟩
    refine Intrinsic.perform_swap_of_refused (R := R) hCurrent ?_
    rw [hBackend, hEmbed.run_eq, hRefused]

/-
  Two qubits at the first two positions are swapped. A third was
  never issued, and a swap with it leaves the context as it was.
-/
theorem first_two_positions_are_exchanged :
    let start : FullState Float := .start fun _ => 0
    let sim :=
      (runRequests start (List.replicate 2 .allocateQubit)).2
    let b : Builtin Float := .fullState sim
    let ctx : Context 1 (Builtin Float) :=
      (Context.start RunConfig.standard #v[b]).opened (some 0) true
    let run := (Intrinsic.swap ⟨0⟩ ⟨1⟩).perform ctx
    b.Reachable ∧
      b.kind ≠ .stub ∧
      ctx.currentDevice = .ok 0 ∧
      b.Holds (.qubit ⟨0⟩) ∧
      b.Holds (.qubit ⟨1⟩) ∧
      (∃ after : FullState Float,
        run = (.ok (), ctx.withDevice 0 (.fullState after)) ∧
          ∀ i,
            after.state.amplitude i =
              sim.state.amplitude (exchangeBits 0 1 i)) ∧
      ¬ b.Holds (.qubit ⟨2⟩) ∧
      ((Intrinsic.swap ⟨0⟩ ⟨2⟩).perform ctx).2 = ctx := by
  intro start sim b ctx run
  have hReachable : b.Reachable := by
    have hRun := Builtin.fullState_morphism.runRequests_eq
      (List.replicate 2 .allocateQubit) start
    have hAfter : b = (runRequests (Builtin.fullState start)
        (List.replicate 2 .allocateQubit)).2 :=
      (congrArg Prod.snd hRun).symm
    rw [hAfter]
    exact (Builtin.Reachable.fullState start
      (.start fun _ => 0)).run _
  have hSimulator : b.kind ≠ .stub := BuiltinKind.noConfusion
  have hCurrent : ctx.currentDevice = .ok 0 := rfl
  have hFirst : b.Holds (.qubit ⟨0⟩) := rfl
  have hSecond : b.Holds (.qubit ⟨1⟩) := rfl
  have hNever : ¬ b.Holds (.qubit ⟨2⟩) := Bool.false_ne_true
  rcases swap_exchanges_two_qubits Backend.morphism_id hReachable
      hSimulator hCurrent rfl ⟨0⟩ ⟨1⟩ with
    ⟨hAccepted, -⟩
  rcases hAccepted ⟨hFirst, hSecond, by decide⟩ with
    ⟨⟨after, hRun, hExchanged⟩, -⟩
  rcases swap_exchanges_two_qubits Backend.morphism_id hReachable
      hSimulator hCurrent rfl ⟨0⟩ ⟨2⟩ with
    ⟨-, hRefused⟩
  rcases hRefused (.inr (.inr hNever)) with ⟨e, hSame, -⟩
  refine ⟨hReachable, hSimulator, hCurrent, hFirst, hSecond, ?_,
    hNever, by rw [hSame]⟩
  change Builtin.Exchanged _ _ (.fullState sim) after at hExchanged
  cases hExchanged with
  | fullState _ after position position' hPosition hPosition'
      hExchanged =>
      cases hPosition
      cases hPosition'
      exact ⟨after, hRun, hExchanged.amplitude⟩

end QuantumRuntime

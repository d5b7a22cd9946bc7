import QuantumRuntime.Proofs.ExactReal
import QuantumRuntime.Proofs.Program.BalancedPrograms
import QuantumRuntime.Proofs.Scope.Reclaiming

/-
  This file proves that a reset brings a live qubit to zero and
  leaves no result behind. The record of a scope lists nothing
  that is not live, so a program that gives back what it takes
  changes the backend alone, and a reset is such a program.

  Key definitions include:
    * `InScope`

  Key theorems include:
    * `InScope.of_composed`
    * `Mount.Balanced.perform_of_inScope`
    * `InScope.perform_reset_of_live`
    * `reset_brings_qubit_to_zero`
-/

namespace QuantumRuntime

variable {R : Type} [Scalar R] {n : Nat} {β α : Type} [Backend R β]

------------------------------------------------------------
-- Contexts in a recorded scope
------------------------------------------------------------

/-
  A context is in a scope that keeps a record, on a built-in
  backend in which all that the record lists is live.
-/
structure InScope
    (embed : Builtin R → β)
    (device : Fin n)
    (tracker : Tracker)
    (b : Builtin R)
    (ctx : Context n β) : Prop where
  frames_eq :
    ∃ outer,
      ctx.frames =
        { device := some device
          tracker := some tracker } :: outer
  backend_eq :
    ctx.devices.get device = embed b
  reachable :
    b.Reachable
  live_of_tracked :
    ∀ handle, tracker.Holds handle → b.Holds handle

namespace InScope

variable {embed : Builtin R → β} {device : Fin n}
variable {tracker : Tracker} {b : Builtin R} {ctx : Context n β}

omit [Backend R β] in
theorem currentDevice_eq
    (hScope : InScope embed device tracker b ctx) :
    ctx.currentDevice = .ok device := by
  rcases hScope.frames_eq with ⟨outer, hFrames⟩
  exact Context.currentDevice_of_cons hFrames

/- Every routine in a recorded scope stays in it. -/
theorem of_composed
    (hEmbed : Backend.Morphism embed)
    {routine : Routine R n α}
    (hComposed : Routine.Composed .recorded {device} routine)
    {start : Builtin R}
    (hReachable : start.Reachable)
    (hBackend : ctx.devices.get device = embed start) :
    let inside := ctx.opened (some device) true
    let events := routine.history inside device
    InScope embed device (Tracker.empty.followAll events)
      (runRequests start (events.map Prod.fst)).2
      ((routine β).perform inside).2 := by
  intro inside events
  have hAdvance :
      Advance .recorded {device} events inside
        ((routine β).perform inside).2 :=
    hComposed.advance_history rfl (Set.mem_singleton device)
  have hInside : inside.devices.get device = embed start := hBackend
  have hRun := hAdvance.run_eq device rfl
  rw [hInside, hEmbed.runRequests_eq] at hRun
  have hAnswers :
      (runRequests start (events.map Prod.fst)).1 =
        events.map Prod.snd :=
    congrArg Prod.fst hRun
  have hStart := Bookkeeping.Tallies.start hReachable.sound
  have hTallies := hStart.run (Prod.ext hAnswers rfl)
  exact
    { frames_eq := ⟨ctx.frames, hAdvance.frames_opened_recorded⟩
      backend_eq := (congrArg Prod.snd hRun).symm
      reachable := hReachable.run _
      live_of_tracked := by
        intro handle hTracked
        rw [← Builtin.holds_bookkeeping_iff]
        exact (hTallies.holds_iff handle).mpr (.inl hTracked) }

end InScope

/-
  In a recorded scope a program that gives back what it takes
  changes the backend alone.
-/
theorem Mount.Balanced.perform_of_inScope
    {mount : Mount R n β}
    {program : Program n β α}
    {b after : Builtin R}
    {a : α}
    {requests : List (Request R)}
    (hBalanced : mount.Balanced program b a requests after)
    {tracker : Tracker}
    {ctx : Context n β}
    (hScope :
      InScope mount.embed mount.device tracker b ctx) :
    program.perform ctx =
      (.ok a, ctx.withDevice mount.device (mount.embed after)) := by
  rcases hScope.frames_eq with ⟨outer, hFrames⟩
  have hShows : mount.Shows b ctx :=
    ⟨hScope.currentDevice_eq, hScope.backend_eq⟩
  have hSame :
      tracker.followAll (exchangesOf b requests) = tracker :=
    hBalanced.follow_eq tracker hScope.live_of_tracked
  have hFramesAfter :
      (ctx.withDevice mount.device
          (mount.embed after)).frames =
        { device := some mount.device
          tracker := some tracker } :: outer :=
    hFrames
  rw [hBalanced.perform_eq ctx hShows, hShows.ran_eq,
    hBalanced.run_eq]
  exact congrArg (Prod.mk (Except.ok a))
    ((Context.recorded_congr hFramesAfter hSame).trans
      (Context.recorded_id _))

------------------------------------------------------------
-- Resets
------------------------------------------------------------

namespace InScope

variable {embed : Builtin R → β} {device : Fin n}
variable {tracker : Tracker} {b : Builtin R} {ctx : Context n β}
variable {q : QubitId}

/- A live qubit is reset, and no handle comes or goes. -/
theorem perform_reset_of_live
    (hScope : InScope embed device tracker b ctx)
    (hEmbed : Backend.Morphism embed)
    (hLive : b.Holds (.qubit q)) :
    ∃ last,
      (Intrinsic.reset q).perform ctx =
          (.ok (), ctx.withDevice device (embed last)) ∧
        (∀ handle, last.Holds handle ↔ b.Holds handle) ∧
        b.ResetTo q last := by
  let mount : Mount R n β := ⟨device, embed, hEmbed⟩
  rcases Mount.Balanced.exists_reset mount hScope.reachable hLive
    with ⟨requests, last, hBalanced, hReset⟩
  exact ⟨last, hBalanced.perform_of_inScope hScope,
    hBalanced.holds_iff, hReset⟩

/- A qubit that is not live cannot be reset. -/
theorem perform_reset_of_dead
    (hScope : InScope embed device tracker b ctx)
    (hEmbed : Backend.Morphism embed)
    (hDead : ¬ b.Holds (.qubit q)) :
    ∃ e : BackendError,
      (Intrinsic.reset q).perform ctx =
          (.error (.backend e), ctx) ∧
        (b.kind ≠ .stub → e.IsContractViolation) := by
  rcases Builtin.refuses_measure hDead with
    ⟨e, hRefused, hViolation⟩
  have hThere :
      (Request.measure (R := R) [.z] [q]).run.perform
          (ctx.devices.get device) =
        (.error e, ctx.devices.get device) := by
    rw [hScope.backend_eq, hEmbed.run_eq, hRefused]
  have hMeasure :
      (Context.measure [.z] [q]).perform ctx =
        (.error (.backend e),
          ctx.ran device [Request.measure (R := R) [.z] [q]]) :=
    Context.perform_of_put_error rfl hScope.currentDevice_eq
      (congrArg Prod.fst hThere)
  refine ⟨e, ?_, hViolation⟩
  rw [Intrinsic.reset, Action.perform_bind, hMeasure,
    Context.ran_eq_self hThere (Tracker.follow_error _ e)]

end InScope

/-
  At every moment of a recorded scope on a built-in backend, the
  reset of a live qubit succeeds and changes the backend alone:
  the record of the scope is as before, and so is what is live
  in the backend. On bits the qubit is zero and the others are
  kept. On the full state each amplitude with the bit of the
  qubit set is zero, and each other one is what it was with the
  outcome for that bit, scaled by the norm of the branch. The
  reset of a qubit that is not live fails and changes nothing.
-/
theorem reset_brings_qubit_to_zero
    {embed : Builtin R → β}
    (hEmbed : Backend.Morphism embed)
    {device : Fin n}
    {routine : Routine R n α}
    (hComposed : Routine.Composed .recorded {device} routine)
    (ctx : Context n β)
    {start : Builtin R}
    (hReachable : start.Reachable)
    (hBackend : ctx.devices.get device = embed start)
    (q : QubitId) :
    let inside := ctx.opened (some device) true
    let events := routine.history inside device
    let here := ((routine β).perform inside).2
    let b := (runRequests start (events.map Prod.fst)).2
    let run := (Intrinsic.reset q).perform here
    here.devices.get device = embed b ∧
      (b.Holds (.qubit q) →
        ∃ after,
          run = (.ok (), here.withDevice device (embed after)) ∧
            (∀ handle, after.Holds handle ↔ b.Holds handle) ∧
            b.ResetTo q after) ∧
      (¬ b.Holds (.qubit q) →
        ∃ e : BackendError,
          run = (.error (.backend e), here) ∧
            (b.kind ≠ .stub → e.IsContractViolation)) := by
  intro inside events here b run
  have hScope :
      InScope embed device (Tracker.empty.followAll events) b
        here :=
    .of_composed hEmbed hComposed hReachable hBackend
  exact ⟨hScope.backend_eq, hScope.perform_reset_of_live hEmbed,
    hScope.perform_reset_of_dead hEmbed⟩

/-
  A qubit that is in equal parts zero and one is reset. Its bit
  is set in no amplitude that is left, and no result is live.
-/
theorem half_turned_qubit_is_reset :
    let sim : FullState ℝ := .start fun _ => 0
    let ctx : Context 1 (Builtin ℝ) :=
      Context.start RunConfig.standard #v[.fullState sim]
    let routine : Routine ℝ 1 Unit := fun _ =>
      Context.allocateQubit >>= fun q => Context.apply .h q
    let inside := ctx.opened (some 0) true
    let here := ((routine _).perform inside).2
    let run := (Intrinsic.reset ⟨0⟩).perform here
    (Builtin.fullState sim).Reachable ∧
      Routine.Composed .recorded {0} routine ∧
      ∃ after : FullState ℝ,
        run = (.ok (), here.withDevice 0 (.fullState after)) ∧
          after.state.amplitude 1 = 0 ∧
          ∀ r, ¬ after.results.Live r := by
  intro sim ctx routine inside here run
  have hReachable : (Builtin.fullState sim).Reachable :=
    .fullState sim (.start fun _ => 0)
  have hComposed : Routine.Composed .recorded {0} routine :=
    .bind .allocateQubit fun q => .apply .h q
  have hTurned :
      ∃ turned : FullState ℝ,
        here.devices.get 0 = .fullState turned ∧
          turned.qubits.get? ⟨0⟩ = some 0 ∧
          ∀ r, ¬ turned.results.Live r :=
    ⟨_, rfl, rfl,
      HandleTable.not_live_empty ResultId.firstDynamic⟩
  rcases hTurned with ⟨turned, hBackend, hPosition, hNone⟩
  rcases reset_brings_qubit_to_zero Backend.morphism_id hComposed
      ctx hReachable rfl ⟨0⟩ with
    ⟨hHere, hLive, -⟩
  have hNow := hHere.symm.trans hBackend
  rw [id_eq] at hNow
  rw [hNow] at hLive
  have hHolds : (Builtin.fullState turned).Holds (.qubit ⟨0⟩) :=
    (turned.qubits.live_iff ⟨0⟩).mpr ⟨0, hPosition⟩
  rcases hLive hHolds with ⟨last, hRun, hSame, hReset⟩
  cases hReset with
  | fullState _ after position hThere hReset =>
      cases hPosition.symm.trans hThere
      have hQuotients : Scalar.DividesZero ℝ :=
        fun x _ => zero_div x
      refine ⟨hReachable, hComposed, after, hRun, ?_, fun r => ?_⟩
      · exact hReset.amplitude hQuotients 1
      · exact fun hResult => hNone r ((hSame (.result r)).mp hResult)

end QuantumRuntime

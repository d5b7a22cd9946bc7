import QuantumRuntime.Proofs.Scope.Owed
import QuantumRuntime.Proofs.Simulator.Bookkeeping

/-
  This file proves that reclaiming is complete on backends that
  keep account of their handles. While a scope runs, such a
  backend holds what the scope owes and, apart from that, what
  it held when the scope was opened and has not released since.
  So the end of the scope can release all that is owed.

  Key definitions include:
    * `Bookkeeping.Tallies`

  Key theorems include:
    * `Bookkeeping.Tallies.step`
    * `Bookkeeping.Tallies.run`
    * `reclaiming_is_complete`
-/

namespace QuantumRuntime

variable {R : Type} [Scalar R] {n : Nat} {β γ α : Type}
variable [Backend R β] [Backend R γ]

------------------------------------------------------------
-- Records against backends
------------------------------------------------------------

namespace Bookkeeping

/-
  A backend holds the handles of a record and some handles from
  before, and no handle is both.
-/
structure Tallies
    (book : Bookkeeping R β)
    (before : Handle → Prop)
    (tracker : Tracker)
    (b : β) : Prop where
  sound :
    book.Sound b
  holds_iff :
    ∀ handle,
      book.Holds b handle ↔
        tracker.Holds handle ∨ before handle
  disjoint :
    ∀ handle, before handle → ¬ tracker.Holds handle

namespace Tallies

variable {book : Bookkeeping R β}
variable {before : Handle → Prop}
variable {tracker : Tracker}
variable {b : β}

/- When a scope is opened, all that is held is from before. -/
theorem start
    (hSound : book.Sound b) :
    book.Tallies (book.Holds b) Tracker.empty b where
  sound := hSound
  holds_iff handle :=
    (or_iff_right (Tracker.not_holds_empty handle)).symm
  disjoint handle _ := Tracker.not_holds_empty handle

/-
  An exchange that the record follows keeps the tally, apart
  from a handle from before that it may end.
-/
theorem step
    (hTallies : book.Tallies before tracker b)
    (request : Request R) :
    let event : Exchange R := (request, (request.run.perform b).1)
    book.Tallies
      (fun handle => before handle ∧ ¬ event.Ends handle)
      (tracker.follow event) (request.run.perform b).2 where
  sound := book.sound_run request b hTallies.sound
  holds_iff handle := by
    rw [book.holds_run_iff hTallies.sound, Tracker.holds_follow,
      hTallies.holds_iff]
    tauto
  disjoint := by
    rintro handle ⟨hBefore, -⟩
    have hHeld : book.Holds b handle :=
      (hTallies.holds_iff handle).mpr (.inr hBefore)
    rw [Tracker.holds_follow]
    rintro (⟨-, hCreates⟩ | ⟨-, hTracked⟩)
    · exact (book.step request b hTallies.sound).not_holds_of_creates
        (book.coherent b hTallies.sound) hCreates hHeld
    · exact hTallies.disjoint handle hBefore hTracked

/- So does every run of exchanges. -/
theorem run
    (hTallies : book.Tallies before tracker b)
    {events : List (Exchange R)}
    {after : β}
    (hRun :
      runRequests b (events.map Prod.fst) =
        (events.map Prod.snd, after)) :
    book.Tallies
      (fun handle =>
        before handle ∧
          ∀ event ∈ events, ¬ Exchange.Ends event handle)
      (tracker.followAll events) after := by
  induction events generalizing before tracker b with
  | nil =>
      cases hRun
      simpa using hTallies
  | cons event rest ih =>
      rcases event with ⟨request, answer⟩
      simp only [List.map_cons, runRequests_cons, Prod.mk.injEq,
        List.cons.injEq] at hRun
      rcases hRun with ⟨⟨rfl, hAnswers⟩, hAfter⟩
      have hRest := ih (hTallies.step request)
        (Prod.ext hAnswers hAfter)
      simpa [and_assoc] using hRest

end Tallies

end Bookkeeping

------------------------------------------------------------
-- Moments of a history
------------------------------------------------------------

/- What was answered up to a moment does not depend on the rest. -/
theorem runRequests_of_append
    {b after : β}
    {first second : List (Exchange R)}
    (hRun :
      runRequests b ((first ++ second).map Prod.fst) =
        ((first ++ second).map Prod.snd, after)) :
    (runRequests b (first.map Prod.fst)).1 =
      first.map Prod.snd := by
  rw [List.map_append, List.map_append, runRequests_append]
    at hRun
  exact (List.append_inj (congrArg Prod.fst hRun) (by simp)).1

------------------------------------------------------------
-- The end of a scope that reclaims
------------------------------------------------------------

theorem Tracker.mem_owed_report_iff
    (tracker : Tracker)
    (handle : Handle) :
    handle ∈ tracker.report.owed ↔ tracker.Holds handle := by
  cases handle with
  | qubit q =>
      simp [LeakReport.owed, Tracker.report, Tracker.Holds]
  | result r =>
      simp [LeakReport.owed, Tracker.report, Tracker.Holds]

/- A report in order lists no handle twice. -/
theorem LeakReport.Ascending.nodup_owed
    {report : LeakReport}
    (hAscending : report.Ascending) :
    report.owed.Nodup := by
  refine List.nodup_append.mpr ⟨?_, ?_, ?_⟩
  · refine List.Nodup.map (fun _ _ hEq => Handle.result.inj hEq) ?_
    exact hAscending.results.imp fun hLess hEq =>
      absurd (congrArg ResultId.raw hEq) (Nat.ne_of_lt hLess)
  · refine List.Nodup.map (fun _ _ hEq => Handle.qubit.inj hEq) ?_
    exact hAscending.qubits.imp fun hLess hEq =>
      absurd (congrArg QubitId.raw hEq) (Nat.ne_of_lt hLess)
  · simp

/- When all requests were accepted, no key is left. -/
theorem refusedOf_eq_nil
    {K : Type}
    {keys : List K}
    {answers : List (Except BackendError Reply)}
    (hAccepted : ∀ answer ∈ answers, ∃ reply, answer = .ok reply) :
    refusedOf keys answers = [] := by
  unfold refusedOf
  rw [List.map_eq_nil_iff, List.filter_eq_nil_iff]
  intro pair hMem
  rcases hAccepted pair.2 (List.of_mem_zip hMem).2 with
    ⟨reply, hReply⟩
  rw [hReply]
  exact Bool.false_ne_true

/- A report that owes nothing is settled as it is. -/
theorem LeakReport.settledBy_nil
    {report : LeakReport}
    (hNone : report.owed = []) :
    report.settledBy [] = report := by
  rcases report with ⟨qubits, results, reclaimed⟩
  simp only [owed, List.append_eq_nil_iff, List.map_eq_nil_iff]
    at hNone
  rcases hNone with ⟨rfl, rfl⟩
  simp [settledBy, owed, acceptedOf]

/-
  A frame that releases on teardown asks for all that it owes,
  which may be nothing.
-/
theorem Frame.settle_of_releases
    {frame : Frame n}
    {config : RunConfig}
    {tracker : Tracker}
    {device : Fin n}
    (hTracker : frame.tracker = some tracker)
    (hDevice : frame.device = some device)
    (hReleases : config.releaseOnTeardown = true)
    (devices : Vector β n) :
    let run :=
      runRequests (devices.get device)
        (tracker.report.owed.map Handle.releaseRequest)
    (frame.settle config devices).report =
        tracker.report.settledBy run.1 ∧
      (frame.settle config devices).devices =
        devices.set device run.2 device.isLt := by
  by_cases hOwes : tracker.report.HasLeaks
  · have hReclaims : frame.Reclaims config tracker device :=
      ⟨hTracker, hDevice, hReleases, hOwes⟩
    rw [hReclaims.settle_eq devices]
    exact ⟨rfl, rfl⟩
  · have hKeeps :
        ∀ other d, ¬ frame.Reclaims config other d := by
      intro other d hReclaims
      cases hTracker.symm.trans hReclaims.tracker_eq
      exact hOwes hReclaims.owes
    have hNone : tracker.report.owed = [] := by
      simpa [LeakReport.HasLeaks, LeakReport.owed, and_comm]
        using hOwes
    rw [settle_of_not_reclaims hKeeps, hTracker, hNone]
    exact ⟨(LeakReport.settledBy_nil hNone).symm,
      (Vector.set_getElem_self device.isLt).symm⟩

/-
  If a backend and a record tally when a scope ends, nothing of
  the record is left, and the backend holds what is from before.
-/
theorem Bookkeeping.Tallies.settle
    {book : Bookkeeping R γ}
    {before : Handle → Prop}
    {tracker : Tracker}
    {b : γ}
    (hTallies : book.Tallies before tracker b)
    {embed : γ → β}
    (hEmbed : Backend.Morphism embed)
    (frame : Frame n)
    {config : RunConfig}
    {device : Fin n}
    {devices : Vector β n}
    (hTracker : frame.tracker = some tracker)
    (hDevice : frame.device = some device)
    (hReleases : config.releaseOnTeardown = true)
    (hBackend : devices.get device = embed b) :
    (frame.settle config devices).report.owed = [] ∧
      ∃ last,
        (frame.settle config devices).devices.get device =
            embed last ∧
          ∀ handle, book.Holds last handle ↔ before handle := by
  have hOwed :
      ∀ handle ∈ tracker.report.owed, book.Holds b handle := by
    intro handle hMem
    exact (hTallies.holds_iff handle).mpr
      (.inl ((tracker.mem_owed_report_iff handle).mp hMem))
  have hReleased :=
    book.releases hTallies.sound
      tracker.report_ascending.nodup_owed hOwed
  have hLength :=
    length_runRequests b
      (tracker.report.owed.map (Handle.releaseRequest (R := R)))
  rcases Frame.settle_of_releases hTracker hDevice hReleases
      devices with ⟨hReport, hDevices⟩
  rw [hBackend, hEmbed.runRequests_eq] at hReport hDevices
  rcases hRun :
      runRequests b
        (tracker.report.owed.map (Handle.releaseRequest (R := R)))
    with ⟨answers, last⟩
  rw [hRun] at hReleased hReport hDevices hLength
  rcases hReleased with ⟨hAccepted, -, hHolds⟩
  rw [List.length_map] at hLength
  refine ⟨?_, last, ?_, ?_⟩
  · rw [hReport, tracker.report.owed_settledBy hLength]
    exact refusedOf_eq_nil hAccepted
  · rw [hDevices]
    exact Vector.getElem_set_self device.isLt
  · intro handle
    rw [hHolds, tracker.mem_owed_report_iff, hTallies.holds_iff]
    have hDisjoint := hTallies.disjoint handle
    tauto

------------------------------------------------------------
-- Built-in backends
------------------------------------------------------------

omit [Backend R γ] in
/-
  At every moment of a scope on a built-in backend, which is a
  prefix of the history of the scope, all that the record lists
  is live. When the scope reclaims, no handle is left in its
  report whatever the policy and however it ends, and those
  handles are live afterwards that were live when it was opened
  and that the program has not released.
-/
theorem reclaiming_is_complete
    {embed : Builtin R → β}
    (hEmbed : Backend.Morphism embed)
    {device : Fin n}
    {routine : Routine R n α}
    (hComposed : Routine.Composed .recorded {device} routine)
    (ctx : Context n β)
    (hReleases : ctx.config.releaseOnTeardown = true)
    {b : Builtin R}
    (hReachable : b.Reachable)
    (hBackend : ctx.devices.get device = embed b) :
    let inside := ctx.opened (some device) true
    let events := routine.history inside device
    let after := ((routine β).perform inside).2
    (∀ moment,
      moment <+: events →
        let now := runRequests b (moment.map Prod.fst)
        now.1 = moment.map Prod.snd ∧
          ∀ handle,
            (Tracker.empty.followAll moment).Holds handle →
              now.2.Holds handle) ∧
    after.frames =
        { device := some device
          tracker := some (Tracker.empty.followAll events) } ::
          ctx.frames ∧
    after.devices.get device =
        embed (runRequests b (events.map Prod.fst)).2 ∧
    ∃ report last,
      (Context.finish.perform after).1 = .ok report ∧
        report.qubits = [] ∧
        report.results = [] ∧
        (Context.finish.perform after).2.devices.get device =
          embed last ∧
        (Context.dropScope.perform after).2.devices.get device =
          embed last ∧
        ∀ handle,
          last.Holds handle ↔
            b.Holds handle ∧
              ∀ event ∈ events, ¬ Exchange.Ends event handle := by
  intro inside events after
  have hAdvance : Advance .recorded {device} events inside after :=
    hComposed.advance_history rfl (Set.mem_singleton device)
  have hInside : inside.devices.get device = embed b := hBackend
  have hRun := hAdvance.run_eq device rfl
  rw [hInside, hEmbed.runRequests_eq] at hRun
  rcases hNow : runRequests b (events.map Prod.fst) with
    ⟨answers, now⟩
  rw [hNow] at hRun
  cases (congrArg Prod.fst hRun : answers = events.map Prod.snd)
  have hAfter : after.devices.get device = embed now :=
    (congrArg Prod.snd hRun).symm
  let frame : Frame n :=
    { device := some device
      tracker := some (Tracker.empty.followAll events) }
  have hFrames : after.frames = frame :: ctx.frames :=
    hAdvance.frames_opened_recorded
  have hReleasesAfter : after.config.releaseOnTeardown = true := by
    rw [hAdvance.config_eq]
    exact hReleases
  have hStart := Bookkeeping.Tallies.start hReachable.sound
  rcases (hStart.run hNow).settle hEmbed frame rfl rfl
      hReleasesAfter hAfter with
    ⟨hOwed, last, hLast, hHolds⟩
  refine ⟨?_, hFrames, hAfter, ?_⟩
  · rintro moment ⟨rest, hEvents⟩
    have hMoment :
        (runRequests b (moment.map Prod.fst)).1 =
          moment.map Prod.snd := by
      rw [← hEvents] at hNow
      exact runRequests_of_append hNow
    refine ⟨hMoment, fun handle hTracked => ?_⟩
    have hTallies := hStart.run (Prod.ext hMoment rfl)
    rw [← Builtin.holds_bookkeeping_iff]
    exact (hTallies.holds_iff handle).mpr (.inl hTracked)
  · have hNone :
        (frame.settle after.config after.devices).report.qubits =
            [] ∧
          (frame.settle after.config after.devices).report.results =
            [] := by
      simpa [LeakReport.owed, and_comm] using hOwed
    have hVerdict :
        after.config.leakPolicy.verdict
            (frame.settle after.config after.devices).report =
          .ok (frame.settle after.config after.devices).report := by
      rw [LeakPolicy.verdict, if_neg]
      simp [LeakReport.HasLeaks, hNone]
    rw [Context.finish, after.perform_closeScope hFrames,
      after.perform_dropScope hFrames]
    refine ⟨_, last, hVerdict, hNone.1, hNone.2, hLast, hLast, ?_⟩
    intro handle
    rw [← Builtin.holds_bookkeeping_iff,
      ← Builtin.holds_bookkeeping_iff]
    exact hHolds handle

/-
  A program that releases neither its qubit nor its result does
  not fail under the strictest policy, and leaves nothing live.
-/
theorem careless_program_is_reclaimed :
    let b : Builtin Float := .toffoli (.start .tracked)
    let config : RunConfig :=
      { RunConfig.standard with
        leakPolicy := .fail
        releaseOnTeardown := true }
    let ctx : Context 1 (Builtin Float) := Context.start config #v[b]
    let routine : Routine Float 1 ResultId := fun _ =>
      Context.allocateQubit >>= fun q => Context.measure [.z] [q]
    let after :=
      ((routine _).perform (ctx.opened (some 0) true)).2
    b.Reachable ∧
      ∃ report last,
        (Context.finish.perform after).1 = .ok report ∧
          report.qubits = [] ∧
          (Context.finish.perform after).2.devices.get 0 = last ∧
          ∀ handle, ¬ last.Holds handle := by
  intro b config ctx routine after
  have hReachable : b.Reachable := .toffoli _ (.start .tracked)
  have hComposed : Routine.Composed .recorded {0} routine :=
    .bind .allocateQubit fun q => .measure [.z] [q]
  rcases reclaiming_is_complete Backend.morphism_id hComposed ctx
      rfl hReachable rfl with
    ⟨-, -, -, report, last, hFinish, hQubits, -, hLast, -, hHolds⟩
  refine ⟨hReachable, report, last, hFinish, hQubits, hLast, ?_⟩
  intro handle hLive
  have hBefore := ((hHolds handle).mp hLive).1
  cases handle with
  | qubit q => exact HandleTable.not_live_empty 0 q hBefore
  | result r =>
      exact HandleTable.not_live_empty ResultId.firstDynamic r
        hBefore

end QuantumRuntime

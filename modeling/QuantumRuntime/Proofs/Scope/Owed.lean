import QuantumRuntime.Proofs.Scope.History
import Mathlib.Data.List.Induction

/-
  This file proves what the record of a scope lists: exactly
  the handles that the history of the scope still owes, which
  are those whose last accepted request created them.

  Key definitions include:
    * `Owes`
    * `Tracker.Holds`

  Key theorems include:
    * `Tracker.removeQubit_tells`
    * `Tracker.removeResult_tells`
    * `Tracker.holds_follow`
    * `Tracker.holds_followAll`
    * `report_lists_owed_handles`
-/

namespace QuantumRuntime

variable {R : Type}

------------------------------------------------------------
-- Handles in a history
------------------------------------------------------------

/-
  The last exchange about a handle that was accepted created it
  rather than released it.
-/
def Owes
    (events : List (Exchange R))
    (handle : Handle) : Prop :=
  ∃ before event after,
    events = before ++ event :: after ∧
      Exchange.Creates event handle ∧
      ∀ later ∈ after,
        ¬ Exchange.Creates later handle ∧
          ¬ Exchange.Ends later handle

namespace Owes

theorem not_nil
    (handle : Handle) :
    ¬ Owes ([] : List (Exchange R)) handle := by
  rintro ⟨before, event, after, hEvents, -, -⟩
  simp at hEvents

/- Whether a handle is owed is decided by the last exchange. -/
theorem append_singleton_iff
    {events : List (Exchange R)}
    {event : Exchange R}
    {handle : Handle} :
    Owes (events ++ [event]) handle ↔
      event.Creates handle ∨
        (¬ event.Ends handle ∧ Owes events handle) := by
  constructor
  · rintro ⟨before, creation, after, hEvents, hCreates, hLater⟩
    rcases List.eq_nil_or_concat after with rfl | ⟨rest, last, rfl⟩
    · have hLast := List.append_inj' hEvents rfl
      cases hLast.2
      exact .inl hCreates
    · have hSplit :
          events ++ [event] =
            (before ++ creation :: rest) ++ [last] := by
        simpa using hEvents
      have hLast := List.append_inj' hSplit rfl
      cases hLast.2
      refine .inr ⟨(hLater event (by simp)).2, before, creation,
        rest, hLast.1, hCreates, ?_⟩
      intro later hMem
      exact hLater later (by simp [hMem])
  · rintro (hCreates | ⟨hNotEnds, hOwes⟩)
    · exact ⟨events, event, [], rfl, hCreates, by simp⟩
    · by_cases hCreates : event.Creates handle
      · exact ⟨events, event, [], rfl, hCreates, by simp⟩
      · rcases hOwes with
          ⟨before, creation, after, rfl, hCreation, hLater⟩
        refine ⟨before, creation, after ++ [event], by simp,
          hCreation, ?_⟩
        intro later hMem
        rcases List.mem_append.mp hMem with hHere | hHere
        · exact hLater later hHere
        · cases List.mem_singleton.mp hHere
          exact ⟨hCreates, hNotEnds⟩

end Owes

------------------------------------------------------------
-- Handles in a record
------------------------------------------------------------

namespace Tracker

/- A record lists a handle. -/
def Holds
    (tracker : Tracker) : Handle → Prop
  | .qubit q => q ∈ tracker.qubits
  | .result r => r ∈ tracker.results

theorem not_holds_empty
    (handle : Handle) :
    ¬ Tracker.empty.Holds handle := by
  cases handle with
  | qubit q => exact Std.ExtTreeSet.not_mem_empty
  | result r => exact Std.ExtTreeSet.not_mem_empty

theorem holds_trackQubit
    (q : QubitId)
    (tracker : Tracker)
    (handle : Handle) :
    (tracker.trackQubit q).Holds handle ↔
      handle = .qubit q ∨ tracker.Holds handle := by
  cases handle with
  | qubit other =>
      simp [Holds, trackQubit, Std.ExtTreeSet.mem_insert,
        @eq_comm _ other]
  | result r => simp [Holds, trackQubit]

theorem holds_untrackQubit
    (q : QubitId)
    (tracker : Tracker)
    (handle : Handle) :
    (tracker.untrackQubit q).Holds handle ↔
      handle ≠ .qubit q ∧ tracker.Holds handle := by
  cases handle with
  | qubit other =>
      simp [Holds, untrackQubit, removeQubit, Std.ExtTreeSet.mem_erase,
        @eq_comm _ other]
  | result r => simp [Holds, untrackQubit, removeQubit]

theorem holds_trackResult
    (r : ResultId)
    (tracker : Tracker)
    (handle : Handle) :
    (tracker.trackResult r).Holds handle ↔
      (¬ handle.IsConstant ∧ handle = .result r) ∨
        tracker.Holds handle := by
  by_cases hConstant : r.IsConstant
  · have hNot : ¬ (¬ handle.IsConstant ∧ handle = .result r) := by
      rintro ⟨hNot, rfl⟩
      exact hNot hConstant
    rw [trackResult, if_pos hConstant]
    exact (or_iff_right hNot).symm
  · rw [trackResult, if_neg hConstant]
    cases handle with
    | qubit q => simp [Holds]
    | result other =>
        simp only [Holds, Std.ExtTreeSet.mem_insert,
          Std.LawfulEqCmp.compare_eq_iff_eq]
        constructor
        · rintro (rfl | hHolds)
          · exact .inl ⟨hConstant, rfl⟩
          · exact .inr hHolds
        · rintro (⟨-, hEq⟩ | hHolds)
          · exact .inl (Handle.result.inj hEq).symm
          · exact .inr hHolds

theorem holds_untrackResult
    (r : ResultId)
    (tracker : Tracker)
    (handle : Handle) :
    (tracker.untrackResult r).Holds handle ↔
      handle ≠ .result r ∧ tracker.Holds handle := by
  cases handle with
  | qubit q => simp [Holds, untrackResult, removeResult]
  | result other =>
      simp [Holds, untrackResult, removeResult, Std.ExtTreeSet.mem_erase,
        @eq_comm _ other]

/- Records that list the same handles are equal. -/
theorem eq_of_holds
    {first second : Tracker}
    (hHolds : ∀ handle, first.Holds handle ↔ second.Holds handle) :
    first = second := by
  rcases first with ⟨qubits, results⟩
  rcases second with ⟨qubits', results'⟩
  congr 1
  · exact Std.ExtTreeSet.ext_mem fun q => hHolds (.qubit q)
  · exact Std.ExtTreeSet.ext_mem fun r => hHolds (.result r)

/- To forget a handle that a record does not list changes nothing. -/
theorem eq_of_forgotten
    {tracker tracker' : Tracker}
    {handle : Handle}
    (hForgotten :
      ∀ other,
        tracker'.Holds other ↔ other ≠ handle ∧ tracker.Holds other)
    (hNot : ¬ tracker.Holds handle) :
    tracker' = tracker := by
  refine eq_of_holds fun other => (hForgotten other).trans ?_
  refine and_iff_right_of_imp fun hHolds => ?_
  rintro rfl
  exact hNot hHolds

/-
  A qubit that is forgotten is reported as outstanding exactly
  when the record lists it, and otherwise the record is kept.
-/
theorem removeQubit_tells
    (q : QubitId)
    (tracker : Tracker) :
    ((tracker.removeQubit q).1 = true ↔ tracker.Holds (.qubit q)) ∧
      ((tracker.removeQubit q).1 = false →
        (tracker.removeQubit q).2 = tracker) := by
  have hTells :
      (tracker.removeQubit q).1 = true ↔ tracker.Holds (.qubit q) :=
    Std.ExtTreeSet.contains_iff_mem
  refine ⟨hTells, fun hFalse => ?_⟩
  exact eq_of_forgotten (holds_untrackQubit q tracker)
    (mt hTells.mpr (Bool.eq_false_iff.mp hFalse))

/- A result that is forgotten is reported in the same way. -/
theorem removeResult_tells
    (r : ResultId)
    (tracker : Tracker) :
    ((tracker.removeResult r).1 = true ↔ tracker.Holds (.result r)) ∧
      ((tracker.removeResult r).1 = false →
        (tracker.removeResult r).2 = tracker) := by
  have hTells :
      (tracker.removeResult r).1 = true ↔ tracker.Holds (.result r) :=
    Std.ExtTreeSet.contains_iff_mem
  refine ⟨hTells, fun hFalse => ?_⟩
  exact eq_of_forgotten (holds_untrackResult r tracker)
    (mt hTells.mpr (Bool.eq_false_iff.mp hFalse))

/-
  An exchange makes a record list the handle that it creates
  and forget the one that it ends.
-/
theorem holds_follow
    (event : Exchange R)
    (tracker : Tracker)
    (handle : Handle) :
    (tracker.follow event).Holds handle ↔
      (¬ handle.IsConstant ∧ event.Creates handle) ∨
        (¬ event.Ends handle ∧ tracker.Holds handle) := by
  rcases event with ⟨request, e | reply⟩
  · simp
  · cases request with
    | allocateQubit =>
        cases reply with
        | qubit q =>
            have hDynamic :
                handle = .qubit q → ¬ handle.IsConstant := by
              rintro rfl
              exact not_false
            simp only [follow, holds_trackQubit,
              Exchange.creates_allocated_iff,
              Exchange.not_ends_allocateQubit,
              not_false_eq_true, true_and,
              and_iff_right_of_imp hDynamic]
        | _ =>
            cases handle <;>
              simp [follow, Exchange.Creates, Exchange.Ends]
    | releaseQubit q => simp [follow, holds_untrackQubit]
    | measure bases targets =>
        cases reply with
        | result r => simp [follow, holds_trackResult]
        | _ =>
            cases handle <;>
              simp [follow, Exchange.Creates, Exchange.Ends]
    | releaseResult r => simp [follow, holds_untrackResult]
    | _ =>
        cases handle <;>
          simp [follow, Exchange.Creates, Exchange.Ends]

/-
  A record that has followed some exchanges from the start
  lists what they owe, constants left out.
-/
theorem holds_followAll
    (events : List (Exchange R))
    (handle : Handle) :
    (Tracker.empty.followAll events).Holds handle ↔
      ¬ handle.IsConstant ∧ Owes events handle := by
  induction events using List.reverseRecOn with
  | nil =>
      exact iff_of_false (not_holds_empty handle)
        fun hOwes => Owes.not_nil handle hOwes.2
  | append_singleton events event ih =>
      rw [followAll_append, followAll_singleton, holds_follow, ih,
        Owes.append_singleton_iff]
      constructor
      · rintro (⟨hDynamic, hCreates⟩ | ⟨hKept, hDynamic, hOwes⟩)
        · exact ⟨hDynamic, .inl hCreates⟩
        · exact ⟨hDynamic, .inr ⟨hKept, hOwes⟩⟩
      · rintro ⟨hDynamic, hCreates | ⟨hKept, hOwes⟩⟩
        · exact .inl ⟨hDynamic, hCreates⟩
        · exact .inr ⟨hKept, hDynamic, hOwes⟩

end Tracker

------------------------------------------------------------
-- Reports
------------------------------------------------------------

section

variable [Scalar R] {n : Nat} {β α : Type} [Backend R β]

/- What a routine exchanges with the backend of a scope, if any. -/
def Routine.scopeHistory
    (routine : Routine R n α)
    (ctx : Context n β) : Option (Fin n) → List (Exchange R)
  | some device => routine.history ctx device
  | none => []

/-
  A composed routine in a scope opened for it advances by its
  history in that scope.
-/
theorem Routine.Composed.advance_scopeHistory
    {device : Option (Fin n)}
    {routine : Routine R n α}
    (hComposed :
      Routine.Composed .recorded {d | device = some d} routine)
    (ctx : Context n β)
    (track : Bool) :
    Advance .recorded {d | device = some d}
      (routine.scopeHistory (ctx.opened device track) device)
      (ctx.opened device track)
      ((routine β).perform (ctx.opened device track)).2 := by
  cases device with
  | some d => exact hComposed.advance_history rfl rfl
  | none =>
      have hDevice :
          ∀ d, none = some d → d ∈ {d : Fin n | none = some d} :=
        fun _ hEq => hEq
      rcases hComposed.advance_opened hDevice ctx track with
        ⟨events, hAdvance⟩
      cases hAdvance.idle .noBackend rfl
      exact hAdvance

/-
  The history of a scope is how its backend has come to where
  it is. When a recorded scope closes and nothing is reclaimed,
  its report lists what that history owes, in ascending order
  and without constants. A request that fails changes no record.
-/
theorem report_lists_owed_handles
    {device : Option (Fin n)}
    {routine : Routine R n α}
    (hComposed :
      Routine.Composed .recorded {d | device = some d} routine)
    (ctx : Context n β)
    (hKept : ctx.config.releaseOnTeardown = false ∨ device = none) :
    let inside := ctx.opened device true
    let events := routine.scopeHistory inside device
    let after := ((routine β).perform inside).2
    (∀ d,
      device = some d →
        runRequests (inside.devices.get d)
            (events.map Prod.fst) =
          (events.map Prod.snd, after.devices.get d)) ∧
    (∃ report : LeakReport,
      (Context.finish.perform after).1 =
          ctx.config.leakPolicy.verdict report ∧
        report.Ascending ∧
        (∀ q, q ∈ report.qubits ↔ Owes events (.qubit q)) ∧
        (∀ r, r ∈ report.results ↔
          ¬ r.IsConstant ∧ Owes events (.result r)) ∧
        report.reclaimed = []) ∧
    ∀ (request : Request R) (there : Context n β) (e : ProgramError),
      ((Context.put request).perform there).1 = .error e →
        ((Context.put request).perform there).2.frames =
          there.frames := by
  intro inside events after
  have hAdvance : Advance .recorded _ events inside after :=
    hComposed.advance_scopeHistory ctx true
  let tracker := Tracker.empty.followAll events
  have hKeeps :
      ∀ other d,
        ¬ ((Frame.fresh device true).recorded
          (Tracker.followAll events)).Reclaims
            after.config other d := by
    intro other d hReclaims
    rcases hKept with hKept | rfl
    · have hReleases := hReclaims.releases
      rw [hAdvance.config_eq] at hReleases
      exact Bool.false_ne_true (hKept.symm.trans hReleases)
    · cases hReclaims.device_eq
  have hReport :
      (((Frame.fresh device true).recorded
        (Tracker.followAll events)).settle
          after.config after.devices).report =
        tracker.report := by
    rw [Frame.settle_of_not_reclaims hKeeps]
    rfl
  refine ⟨?_, ⟨tracker.report, ?_, tracker.report_ascending,
    ?_, ?_, rfl⟩, ?_⟩
  · rintro d rfl
    exact hAdvance.run_eq d rfl
  · rw [Context.finish,
      Context.perform_closeScope _ hAdvance.frames_opened_recorded,
      hReport, hAdvance.config_eq]
    rfl
  · intro q
    have hDynamic : ¬ (Handle.qubit q).IsConstant := not_false
    have hHolds := Tracker.holds_followAll events (.qubit q)
    rw [and_iff_right hDynamic] at hHolds
    exact Std.ExtTreeSet.mem_toList.trans hHolds
  · intro r
    exact Std.ExtTreeSet.mem_toList.trans
      (Tracker.holds_followAll events (.result r))
  · intro request there e hError
    exact Context.perform_put_frames_of_error hError

/- Of two qubits the one that was not released is reported. -/
theorem second_qubit_is_reported :
    let ctx : Context 1 (Toffoli Float) :=
      Context.start RunConfig.standard #v[.start .tracked]
    let routine : Routine Float 1 Unit := fun _ =>
      Context.allocateQubit >>= fun first =>
        Context.allocateQubit >>= fun _ =>
          Context.releaseQubit first
    let after :=
      ((routine _).perform (ctx.opened (some 0) true)).2
    ∃ report : LeakReport,
      (Context.finish.perform after).1 = .ok report ∧
        ⟨1⟩ ∈ report.qubits ∧ ⟨0⟩ ∉ report.qubits := by
  intro ctx routine after
  have hComposed :
      Routine.Composed .recorded {d | some 0 = some d} routine :=
    .bind .allocateQubit fun first =>
      .bind .allocateQubit fun _ => .releaseQubit first
  rcases report_lists_owed_handles hComposed ctx (.inl rfl) with
    ⟨-, ⟨report, hFinish, -, hQubits, -, -⟩, -⟩
  have hEvents :
      routine.scopeHistory (ctx.opened (some 0) true) (some 0) =
        [(.allocateQubit, .ok (.qubit ⟨0⟩)),
          (.allocateQubit, .ok (.qubit ⟨1⟩))] ++
          [(.releaseQubit ⟨0⟩, .ok .done)] := by
    decide +kernel
  rw [hEvents] at hQubits
  refine ⟨report, hFinish, (hQubits ⟨1⟩).mpr ?_, ?_⟩
  · refine Owes.append_singleton_iff.mpr (.inr ⟨?_, ?_⟩)
    · rintro ⟨reply, hEq⟩
      cases hEq
    · exact ⟨[(.allocateQubit, .ok (.qubit ⟨0⟩))], _, [], rfl, rfl,
        by simp⟩
  · rw [hQubits, Owes.append_singleton_iff]
    rintro (hCreates | ⟨hKept, -⟩)
    · cases hCreates
    · exact hKept ⟨_, rfl⟩

end

end QuantumRuntime

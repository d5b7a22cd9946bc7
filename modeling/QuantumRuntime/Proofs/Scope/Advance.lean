import QuantumRuntime.Proofs.Scope.Routine

/-
  This file proves what a composed routine can do to a context.
  It exchanges requests with the backend of the innermost
  scope, the record of that scope follows the exchanges unless
  there is direct access, and everything else that is taken
  stays as it is. Scopes that the routine opens leave no trace
  in what was there before.

  Key definitions include:
    * `Advance`

  Key theorems include:
    * `Advance.trans`
    * `Advance.exchange`
    * `Advance.bypass`
    * `Advance.within`
    * `Routine.Composed.advance`
-/

namespace QuantumRuntime

variable {R : Type} [Scalar R] {n : Nat} {β α : Type} [Backend R β]

------------------------------------------------------------
-- Advances
------------------------------------------------------------

/-
  How a context may come to another one while some backends are
  taken: through exchanges with the backend of the innermost
  scope, none of them a query. Without direct access the record
  of that scope follows them.
-/
structure Advance
    (access : Access)
    (taken : Set (Fin n))
    (events : List (Exchange R))
    (ctx after : Context n β) : Prop where
  config_eq :
    after.config = ctx.config
  frames_eq :
    ∃ change,
      after.frames =
          ctx.frames.modifyHead (Frame.recorded change) ∧
        (access = .recorded → change = Tracker.followAll events)
  run_eq :
    ∀ device,
      ctx.currentDevice = .ok device →
        runRequests (ctx.devices.get device)
            (events.map Prod.fst) =
          (events.map Prod.snd, after.devices.get device)
  idle :
    ∀ e, ctx.currentDevice = .error e → events = []
  others_eq :
    ∀ d ∈ taken,
      ctx.currentDevice ≠ .ok d →
        after.devices.get d = ctx.devices.get d
  changes :
    ∀ exchange ∈ events, ¬ exchange.1.IsQuery

namespace Advance

variable {access : Access} {taken : Set (Fin n)}

/-
  An advance without exchanges, which changes at most notices
  and backends that are not taken.
-/
theorem of_same
    {ctx after : Context n β}
    (hConfig : after.config = ctx.config)
    (hFrames : after.frames = ctx.frames)
    (hDevices :
      ∀ d, d ∈ taken ∨ ctx.currentDevice = .ok d →
        after.devices.get d = ctx.devices.get d) :
    Advance access taken [] ctx after where
  config_eq := hConfig
  frames_eq := by
    refine ⟨_, ?_, fun _ => rfl⟩
    have hSame :
        (Frame.recorded (Tracker.followAll ([] : List (Exchange R))) :
          Frame n → Frame n) = id :=
      Frame.recorded_id
    rw [hSame, List.modifyHead_id, hFrames]
    rfl
  run_eq device hCurrent := by
    rw [hDevices device (.inr hCurrent)]
    rfl
  idle _ _ := rfl
  others_eq d hTaken _ := hDevices d (.inl hTaken)
  changes := by simp

theorem refl
    (ctx : Context n β) :
    Advance access taken [] ctx ctx :=
  .of_same rfl rfl fun _ _ => rfl

/- The innermost scope keeps its backend. -/
theorem currentDevice_eq
    {events : List (Exchange R)}
    {ctx after : Context n β}
    (hAdvance : Advance access taken events ctx after) :
    after.currentDevice = ctx.currentDevice := by
  rcases hAdvance.frames_eq with ⟨change, hFrames, -⟩
  rw [← ctx.currentDevice_recorded change]
  simp only [Context.currentDevice, hFrames, Context.recorded]

/- Exchanges go on where the exchanges before them stopped. -/
theorem trans
    {first second : List (Exchange R)}
    {ctx middle after : Context n β}
    (hFirst : Advance access taken first ctx middle)
    (hSecond : Advance access taken second middle after) :
    Advance access taken (first ++ second) ctx after where
  config_eq := hSecond.config_eq.trans hFirst.config_eq
  frames_eq := by
    rcases hFirst.frames_eq with ⟨early, hEarly, hFollowEarly⟩
    rcases hSecond.frames_eq with ⟨late, hLate, hFollowLate⟩
    refine ⟨late ∘ early, ?_, fun hRecorded => ?_⟩
    · rw [hLate, hEarly, List.modifyHead_modifyHead,
        Frame.recorded_comp]
      rfl
    · rw [hFollowEarly hRecorded, hFollowLate hRecorded]
      exact (funext (Tracker.followAll_append first second)).symm
  run_eq device hCurrent := by
    have hThere : middle.currentDevice = .ok device := by
      rw [hFirst.currentDevice_eq, hCurrent]
    rw [List.map_append, runRequests_append,
      hFirst.run_eq device hCurrent,
      hSecond.run_eq device hThere, List.map_append]
  idle e hNone := by
    have hThere : middle.currentDevice = .error e := by
      rw [hFirst.currentDevice_eq, hNone]
    rw [hFirst.idle e hNone, hSecond.idle e hThere]
    rfl
  others_eq d hTaken hOther := by
    have hThere : middle.currentDevice ≠ .ok d := by
      rwa [hFirst.currentDevice_eq]
    rw [hSecond.others_eq d hTaken hThere,
      hFirst.others_eq d hTaken hOther]
  changes exchange hMem := by
    rcases List.mem_append.mp hMem with hHere | hHere
    · exact hFirst.changes exchange hHere
    · exact hSecond.changes exchange hHere

/-
  A request that changes the current backend is one exchange,
  whatever becomes of the record.
-/
theorem of_request
    {request : Request R}
    {ctx : Context n β}
    {device : Fin n}
    {change : Tracker → Tracker}
    (hCurrent : ctx.currentDevice = .ok device)
    (hQuery : ¬ request.IsQuery)
    (hFollow :
      access = .recorded →
        change =
          Tracker.follow
            (request,
              (request.run.perform
                (ctx.devices.get device)).1)) :
    Advance access taken
      [(request,
        (request.run.perform (ctx.devices.get device)).1)]
      ctx
      ((ctx.withDevice device
        (request.run.perform
          (ctx.devices.get device)).2).recorded change) where
  config_eq := rfl
  frames_eq :=
    ⟨change, rfl, fun hRecorded => by rw [hFollow hRecorded]; rfl⟩
  run_eq other hOther := by
    cases hCurrent.symm.trans hOther
    simp [Context.recorded, Context.get_devices_withDevice]
  idle e hNone := by
    cases hCurrent.symm.trans hNone
  others_eq d _ hOther := by
    have hNe : d ≠ device := by
      rintro rfl
      exact hOther hCurrent
    simp [Context.recorded, Context.get_devices_withDevice, hNe]
  changes exchange hMem := by
    cases List.mem_singleton.mp hMem
    exact hQuery

/- A request is one exchange, or none if it only reads. -/
theorem exchange
    (request : Request R)
    (ctx : Context n β) :
    ∃ events,
      Advance access taken events ctx (ctx.exchange request).2 := by
  cases hCurrent : ctx.currentDevice with
  | error e =>
      refine ⟨[], ?_⟩
      simp only [Context.exchange, hCurrent]
      exact .refl ctx
  | ok device =>
      by_cases hQuery : request.IsQuery
      · refine ⟨[], ?_⟩
        simp only [Context.exchange, hCurrent,
          hQuery.perform_run, Context.withDevice_get,
          Context.recorded_of_follow
            (Tracker.follow_of_isQuery hQuery _)]
        exact .refl ctx
      · refine ⟨[(request,
          (request.run.perform (ctx.devices.get device)).1)], ?_⟩
        simp only [Context.exchange, hCurrent]
        exact .of_request hCurrent hQuery fun _ => rfl

/-
  A request that the record does not follow is one exchange as
  well, or none if it only reads.
-/
theorem bypass
    (request : Request R)
    (ctx : Context n β) :
    ∃ events,
      Advance .direct taken events ctx
        ((Context.onBackend request.run).perform ctx).2 := by
  rw [Context.perform_onBackend]
  cases hCurrent : ctx.currentDevice with
  | error e => exact ⟨[], .refl ctx⟩
  | ok device =>
      by_cases hQuery : request.IsQuery
      · refine ⟨[], ?_⟩
        simp only [hQuery.perform_run, Context.withDevice_get]
        exact .refl ctx
      · refine ⟨[(request,
          (request.run.perform (ctx.devices.get device)).1)], ?_⟩
        dsimp only
        rw [← (ctx.withDevice device
          (request.run.perform
            (ctx.devices.get device)).2).recorded_id]
        exact .of_request hCurrent hQuery
          fun hRecorded => nomatch hRecorded

end Advance

------------------------------------------------------------
-- Scopes inside
------------------------------------------------------------

namespace Context

@[simp] theorem currentDevice_opened
    (device : Option (Fin n))
    (track : Bool)
    (ctx : Context n β) :
    (ctx.opened device track).currentDevice =
      match device with
      | some d => .ok d
      | none => .error .noBackend := by
  cases device <;> rfl

/- The current backend of an opened scope is its own. -/
theorem device_of_currentDevice_opened
    {device : Option (Fin n)}
    {track : Bool}
    {ctx : Context n β}
    {d : Fin n}
    (hCurrent : (ctx.opened device track).currentDevice = .ok d) :
    device = some d := by
  rw [currentDevice_opened] at hCurrent
  cases device with
  | none => cases hCurrent
  | some inner =>
      cases hCurrent
      rfl

end Context

namespace Advance

variable {access : Access} {taken : Set (Fin n)}

/- The frame of a scope after an advance inside the scope. -/
theorem frames_opened
    {events : List (Exchange R)}
    {device : Option (Fin n)}
    {track : Bool}
    {ctx after : Context n β}
    (hAdvance :
      Advance access taken events (ctx.opened device track) after) :
    ∃ change,
      after.frames =
        (Frame.fresh device track).recorded change ::
          ctx.frames := by
  rcases hAdvance.frames_eq with ⟨change, hFrames, -⟩
  exact ⟨change, hFrames⟩

/- Without direct access the record has followed the exchanges. -/
theorem frames_opened_recorded
    {events : List (Exchange R)}
    {device : Option (Fin n)}
    {track : Bool}
    {ctx after : Context n β}
    (hAdvance :
      Advance .recorded taken events (ctx.opened device track)
        after) :
    after.frames =
      (Frame.fresh device track).recorded
          (Tracker.followAll events) ::
        ctx.frames := by
  rcases hAdvance.frames_eq with ⟨change, hFrames, hFollow⟩
  rw [← hFollow rfl]
  exact hFrames

/-
  A scope that opens, advances and ends is no advance at all
  for the scopes around it.
-/
theorem within
    {events : List (Exchange R)}
    {device : Option (Fin n)}
    {track : Bool}
    {body : Program n β α}
    {ctx : Context n β}
    (ending : Except ProgramError α → Ending)
    (hFree : ∀ d ∈ taken, device ≠ some d)
    (hCurrent : ∀ d, ctx.currentDevice = .ok d → d ∈ taken)
    (hBody :
      Advance access (taken ∪ {d | device = some d}) events
        (ctx.opened device track)
        (body.perform (ctx.opened device track)).2) :
    Advance (R := R) access taken [] ctx
      ((Context.within device track body ending).perform ctx).2 := by
  rcases hBody.frames_opened with ⟨change, hFrames⟩
  rw [Context.perform_within _ _ _ _ _ hFrames]
  apply Advance.of_same
  · rw [Context.config_ended, hBody.config_eq]
    rfl
  · rw [Context.frames_ended]
  · intro d hHere
    have hTaken : d ∈ taken := hHere.elim id (hCurrent d)
    have hOther :
        ((Frame.fresh device track).recorded change).device ≠
          some d :=
      hFree d hTaken
    have hInside :
        (ctx.opened device track).currentDevice ≠ .ok d := by
      intro hEq
      exact hOther (Context.device_of_currentDevice_opened hEq)
    rw [Context.devices_ended, Frame.get_devices_settle hOther,
      hBody.others_eq d (.inl hTaken) hInside]
    rfl

end Advance

------------------------------------------------------------
-- Composed routines
------------------------------------------------------------

/-
  A composed routine advances every context whose innermost
  backend is taken.
-/
theorem Routine.Composed.advance
    {access : Access}
    {taken : Set (Fin n)}
    {routine : Routine R n α}
    (hComposed : Routine.Composed access taken routine)
    (ctx : Context n β)
    (hCurrent : ∀ d, ctx.currentDevice = .ok d → d ∈ taken) :
    ∃ events,
      Advance access taken events ctx ((routine β).perform ctx).2 := by
  induction hComposed generalizing ctx with
  | put request =>
      rw [Context.perform_put]
      exact Advance.exchange request ctx
  | bypass hDirect request =>
      subst hDirect
      exact Advance.bypass request ctx
  | ask answer =>
      refine ⟨[], ?_⟩
      rw [Context.perform_askBackend]
      cases ctx.currentDevice <;> exact .refl ctx
  | view look =>
      exact ⟨[], .refl ctx⟩
  | note notice =>
      exact ⟨[], .of_same rfl rfl fun _ _ => rfl⟩
  | @bind taken _ _ first next hFirst hNext ihFirst ihNext =>
      rcases ihFirst ctx hCurrent with ⟨events, hAdvance⟩
      rw [Action.perform_bind]
      rcases hRun : (first β).perform ctx with ⟨e | a, middle⟩ <;>
        rw [hRun] at hAdvance
      · exact ⟨events, hAdvance⟩
      · have hThere :
            ∀ d, middle.currentDevice = .ok d → d ∈ taken := by
          rw [hAdvance.currentDevice_eq]
          exact hCurrent
        rcases ihNext a middle hThere with ⟨more, hMore⟩
        exact ⟨events ++ more, hAdvance.trans hMore⟩
  | attempt hBody ih =>
      exact ih ctx hCurrent
  | @within taken _ device track body ending hFree hBody ih =>
      have hInside :
          ∀ d,
            (ctx.opened device track).currentDevice = .ok d →
              d ∈ taken ∪ {d | device = some d} :=
        fun d hHere =>
          .inr (Context.device_of_currentDevice_opened hHere)
      rcases ih (ctx.opened device track) hInside with
        ⟨events, hAdvance⟩
      exact ⟨[], .within ending hFree hCurrent hAdvance⟩

/- A composed routine advances a scope opened for it. -/
theorem Routine.Composed.advance_opened
    {access : Access}
    {taken : Set (Fin n)}
    {routine : Routine R n α}
    {device : Option (Fin n)}
    (hDevice : ∀ d, device = some d → d ∈ taken)
    (hComposed : Routine.Composed access taken routine)
    (ctx : Context n β)
    (track : Bool) :
    ∃ events,
      Advance access taken events (ctx.opened device track)
        ((routine β).perform (ctx.opened device track)).2 :=
  hComposed.advance (ctx.opened device track) fun d hCurrent =>
    hDevice d (Context.device_of_currentDevice_opened hCurrent)

end QuantumRuntime

import QuantumRuntime.Proofs.Scope.Advance

/-
  This file proves that a routine does the same on backends
  that answer alike. What a routine has exchanged with a
  backend is therefore what a recorded backend logs of it, and
  every composed routine advances its context by that history.

  Key definitions include:
    * `Context.mapDevices`
    * `Routine.history`

  Key theorems include:
    * `Routine.Composed.perform_mapDevices`
    * `Routine.Composed.advance_history`
-/

namespace QuantumRuntime

variable {R : Type} [Scalar R] {n : Nat} {β γ α : Type}

------------------------------------------------------------
-- Contexts over other backends
------------------------------------------------------------

namespace Context

/- The same context over the images of its backends. -/
def mapDevices
    (f : β → γ)
    (ctx : Context n β) : Context n γ :=
  { config := ctx.config
    frames := ctx.frames
    devices := ctx.devices.map f
    notices := ctx.notices }

@[simp] theorem get_devices_mapDevices
    (f : β → γ)
    (ctx : Context n β)
    (device : Fin n) :
    (ctx.mapDevices f).devices.get device =
      f (ctx.devices.get device) :=
  Vector.getElem_map f device.isLt

@[simp] theorem currentDevice_mapDevices
    (f : β → γ)
    (ctx : Context n β) :
    (ctx.mapDevices f).currentDevice = ctx.currentDevice :=
  rfl

theorem withDevice_mapDevices
    (f : β → γ)
    (device : Fin n)
    (b : β)
    (ctx : Context n β) :
    (ctx.mapDevices f).withDevice device (f b) =
      (ctx.withDevice device b).mapDevices f := by
  simp only [withDevice, mapDevices, Vector.map_set]

theorem mapDevices_mapDevices
    {δ : Type}
    (f : β → γ)
    (g : γ → δ)
    (ctx : Context n β) :
    (ctx.mapDevices f).mapDevices g = ctx.mapDevices (g ∘ f) := by
  simp only [mapDevices, Vector.map_map]

theorem mapDevices_id
    (ctx : Context n β) :
    ctx.mapDevices id = ctx := by
  simp only [mapDevices, Vector.map_id]

/- Recording from the start gives the backends back. -/
theorem mapDevices_start_base
    {S : Type}
    (ctx : Context n β) :
    (ctx.mapDevices (Recorded.start (R := S))).mapDevices
        Recorded.base = ctx := by
  rw [mapDevices_mapDevices]
  exact mapDevices_id ctx

variable [Backend R β] [Backend R γ]

/- A request does the same to backends that answer alike. -/
theorem exchange_mapDevices
    {f : β → γ}
    (hMap : Backend.Morphism f)
    (request : Request R)
    (ctx : Context n β) :
    (ctx.mapDevices f).exchange request =
      ((ctx.exchange request).1,
        (ctx.exchange request).2.mapDevices f) := by
  simp only [exchange, currentDevice_mapDevices]
  cases ctx.currentDevice with
  | error e => rfl
  | ok device =>
      simp only [get_devices_mapDevices, hMap.run_eq,
        withDevice_mapDevices]
      rfl

end Context

section

variable [Backend R β] [Backend R γ]

/- A frame settles alike on backends that answer alike. -/
theorem Frame.settle_map
    {f : β → γ}
    (hMap : Backend.Morphism f)
    (config : RunConfig)
    (devices : Vector β n)
    (frame : Frame n) :
    frame.settle config (devices.map f) =
      { report := (frame.settle config devices).report
        notices := (frame.settle config devices).notices
        devices := (frame.settle config devices).devices.map f } := by
  have hGet :
      ∀ device,
        (devices.map f).get device = f (devices.get device) :=
    fun device => Vector.getElem_map f device.isLt
  rcases frame.reclaims_or_keeps config with
    ⟨tracker, device, hReclaims⟩ | hKeeps
  · simp only [hReclaims.settle_eq, hGet, hMap.runRequests_eq,
      Vector.map_set]
  · simp only [settle_of_not_reclaims hKeeps]

/- A scope ends alike on backends that answer alike. -/
theorem Context.ended_mapDevices
    {f : β → γ}
    (hMap : Backend.Morphism f)
    (ending : Ending)
    (frame : Frame n)
    (outer : List (Frame n))
    (ctx : Context n β) :
    (ctx.mapDevices f).ended ending frame outer =
      (ctx.ended ending frame outer).mapDevices f := by
  cases ending <;>
    simp only [ended, closed, mapDevices, withNotices,
      Frame.settle_map hMap]

/-
  A composed routine does the same on backends that answer
  alike.
-/
theorem Routine.Composed.perform_mapDevices
    {f : β → γ}
    (hMap : Backend.Morphism f)
    {access : Access}
    {taken : Set (Fin n)}
    {routine : Routine R n α}
    (hComposed : Routine.Composed access taken routine)
    (ctx : Context n β) :
    (routine γ).perform (ctx.mapDevices f) =
      (((routine β).perform ctx).1,
        ((routine β).perform ctx).2.mapDevices f) := by
  induction hComposed generalizing ctx with
  | put request =>
      rw [Context.perform_put, Context.perform_put,
        Context.exchange_mapDevices hMap]
  | bypass _ request =>
      rw [Context.perform_onBackend, Context.perform_onBackend,
        Context.currentDevice_mapDevices]
      cases ctx.currentDevice with
      | error e => rfl
      | ok device =>
          simp only [Context.get_devices_mapDevices, hMap.run_eq,
            Context.withDevice_mapDevices]
  | ask answer =>
      rw [Context.perform_askBackend, Context.perform_askBackend,
        Context.currentDevice_mapDevices]
      cases ctx.currentDevice with
      | error e => rfl
      | ok device =>
          simp only [Context.get_devices_mapDevices,
            hMap.name_eq, hMap.zeroResult_eq, hMap.oneResult_eq]
  | view look => rfl
  | note notice => rfl
  | @bind _ _ _ first next _ _ ihFirst ihNext =>
      rw [Action.perform_bind, Action.perform_bind, ihFirst]
      rcases (first β).perform ctx with ⟨e | a, middle⟩
      · rfl
      · exact ihNext a middle
  | attempt _ ih =>
      rw [Action.perform_attempt, Action.perform_attempt, ih]
  | @within taken _ device track body ending hFree hBody ih =>
      have hDevice :
          ∀ d, device = some d → d ∈ taken ∪ {d | device = some d} :=
        fun _ hEq => .inr hEq
      rcases hBody.advance_opened hDevice ctx track with
        ⟨events, hAdvance⟩
      have hInside := ih (ctx.opened device track)
      have hOpened :
          (ctx.mapDevices f).opened device track =
            (ctx.opened device track).mapDevices f :=
        rfl
      rcases hAdvance.frames_opened with ⟨change, hFrames⟩
      have hFramesThere :
          ((body γ).perform
              ((ctx.mapDevices f).opened device track)).2.frames =
            (Frame.fresh device track).recorded change ::
              ctx.frames := by
        rw [hOpened, hInside]
        exact hFrames
      rw [Context.perform_within _ _ _ _ _ hFrames,
        Context.perform_within _ _ _ _ _ hFramesThere, hOpened,
        hInside, Context.ended_mapDevices hMap]
      simp only [Context.mapDevices, Frame.settle_map hMap]

/- Advances are the same over backends that answer alike. -/
theorem Advance.mapDevices
    {f : β → γ}
    (hMap : Backend.Morphism f)
    {access : Access}
    {taken : Set (Fin n)}
    {events : List (Exchange R)}
    {ctx after : Context n β}
    (hAdvance : Advance access taken events ctx after) :
    Advance access taken events (ctx.mapDevices f)
      (after.mapDevices f) where
  config_eq := hAdvance.config_eq
  frames_eq := hAdvance.frames_eq
  run_eq device hCurrent := by
    rw [Context.get_devices_mapDevices, hMap.runRequests_eq,
      hAdvance.run_eq device hCurrent,
      Context.get_devices_mapDevices]
  idle := hAdvance.idle
  others_eq d hTaken hOther := by
    rw [Context.get_devices_mapDevices,
      hAdvance.others_eq d hTaken hOther,
      Context.get_devices_mapDevices]
  changes := hAdvance.changes

end

------------------------------------------------------------
-- Histories
------------------------------------------------------------

section

variable [Backend R β]

/-
  What a routine exchanges with a backend, queries left out: the
  log of the same routine over recorded backends.
-/
def Routine.history
    (routine : Routine R n α)
    (ctx : Context n β)
    (device : Fin n) : List (Exchange R) :=
  (((routine (Recorded R β)).perform
    (ctx.mapDevices Recorded.start)).2.devices.get device).log

/-
  The exchanges of an advance of recorded backends are what the
  current backend has logged.
-/
theorem Advance.log_eq
    {access : Access}
    {taken : Set (Fin n)}
    {events : List (Exchange R)}
    {ctx : Context n β}
    {after : Context n (Recorded R β)}
    (hAdvance :
      Advance access taken events (ctx.mapDevices Recorded.start)
        after)
    {device : Fin n}
    (hCurrent : ctx.currentDevice = .ok device) :
    (after.devices.get device).log = events := by
  have hRequests :
      ∀ request ∈ events.map Prod.fst, ¬ request.IsQuery := by
    intro request hMem
    rcases List.mem_map.mp hMem with ⟨event, hEvent, rfl⟩
    exact hAdvance.changes event hEvent
  have hRun := hAdvance.run_eq device hCurrent
  rw [Recorded.runRequests_eq _ hRequests] at hRun
  have hAnswers := congrArg Prod.fst hRun
  have hLog := congrArg (fun run => run.2.log) hRun
  dsimp only at hAnswers hLog
  rw [← hLog, hAnswers, Context.get_devices_mapDevices]
  exact (List.zip_of_prod rfl rfl).symm

/-
  A composed routine advances a context by what it exchanges
  with the backend of the innermost scope.
-/
theorem Routine.Composed.advance_history
    {access : Access}
    {taken : Set (Fin n)}
    {routine : Routine R n α}
    (hComposed : Routine.Composed access taken routine)
    {ctx : Context n β}
    {device : Fin n}
    (hCurrent : ctx.currentDevice = .ok device)
    (hTaken : device ∈ taken) :
    Advance access taken (routine.history ctx device) ctx
      ((routine β).perform ctx).2 := by
  have hHere :
      ∀ d,
        (ctx.mapDevices (Recorded.start (R := R))).currentDevice =
            .ok d →
          d ∈ taken := by
    intro d hOther
    cases hCurrent.symm.trans hOther
    exact hTaken
  rcases hComposed.advance _ hHere with ⟨events, hAdvance⟩
  have hEvents : routine.history ctx device = events :=
    hAdvance.log_eq hCurrent
  have hBase := hAdvance.mapDevices Recorded.base_morphism
  rw [Context.mapDevices_start_base] at hBase
  have hPerform :=
    hComposed.perform_mapDevices
      (Recorded.base_morphism (R := R) (β := β))
      (ctx.mapDevices Recorded.start)
  rw [Context.mapDevices_start_base] at hPerform
  rw [hEvents, hPerform]
  exact hBase

end

end QuantumRuntime

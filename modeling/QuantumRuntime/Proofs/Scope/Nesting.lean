import QuantumRuntime.Proofs.Scope.Advance
import QuantumRuntime.Proofs.Scope.Scripts

/-
  This file proves that scopes nest without interference. What
  runs in a scope reaches the record and the backend of that
  scope and nothing of the scopes around it, needs a backend of
  its own, and a program leaves the stack of scopes as it found
  it, whatever becomes of it.

  Key definitions include:
    * `Context.held`
    * `Context.InnermostOnly`
    * `Context.Idle`
    * `Instruction.NeedsBackend`
    * `Context.RanProgram`

  Key theorems include:
    * `Context.innermostOnly_onBackend`
    * `Instruction.perform_run_of_idle`
    * `Routine.Composed.ranProgram`
    * `scopes_nest_without_interference`
-/

namespace QuantumRuntime

variable {R : Type} [Scalar R] {n : Nat} {β α : Type} [Backend R β]

------------------------------------------------------------
-- The innermost scope
------------------------------------------------------------

namespace Context

/- The backends that open scopes hold. -/
def held
    (ctx : Context n β) : Set (Fin n) :=
  {d | ∃ frame ∈ ctx.frames, frame.device = some d}

/- The current backend is one that an open scope holds. -/
theorem mem_held_of_currentDevice
    {ctx : Context n β}
    {device : Fin n}
    (hCurrent : ctx.currentDevice = .ok device) :
    device ∈ ctx.held := by
  cases hFrames : ctx.frames with
  | nil =>
      rw [currentDevice_of_nil hFrames] at hCurrent
      cases hCurrent
  | cons frame outer =>
      rw [currentDevice_of_cons hFrames] at hCurrent
      cases hDevice : frame.device with
      | none =>
          rw [hDevice] at hCurrent
          cases hCurrent
      | some d =>
          rw [hDevice] at hCurrent
          cases hCurrent
          exact ⟨frame, by simp [hFrames], hDevice⟩

/-
  At most the innermost scope has changed: its record, and its
  backend among those that are watched.
-/
structure InnermostOnly
    (watched : Set (Fin n))
    (ctx after : Context n β) : Prop where
  config_eq :
    after.config = ctx.config
  frames_eq :
    ∃ change,
      after.frames =
        ctx.frames.modifyHead (Frame.recorded change)
  devices_eq :
    ∀ d ∈ watched,
      ctx.currentDevice ≠ .ok d →
        after.devices.get d = ctx.devices.get d

end Context

/- An advance reaches the innermost scope only. -/
theorem Advance.innermostOnly
    {access : Access}
    {taken : Set (Fin n)}
    {events : List (Exchange R)}
    {ctx after : Context n β}
    (hAdvance : Advance access taken events ctx after) :
    ctx.InnermostOnly taken after where
  config_eq := hAdvance.config_eq
  frames_eq := by
    rcases hAdvance.frames_eq with ⟨change, hFrames, -⟩
    exact ⟨change, hFrames⟩
  devices_eq := hAdvance.others_eq

namespace Context

/-
  So does any use of the backend of the innermost scope, even
  one that is no request.
-/
theorem innermostOnly_onBackend
    (action : Action β BackendError α)
    (ctx : Context n β) :
    ctx.InnermostOnly Set.univ
      ((onBackend action).perform ctx).2 := by
  have hSame : ctx.InnermostOnly Set.univ ctx :=
    { config_eq := rfl
      frames_eq :=
        ⟨fun tracker => tracker, congrArg frames ctx.recorded_id.symm⟩
      devices_eq := fun _ _ _ => rfl }
  rw [perform_onBackend]
  cases hCurrent : ctx.currentDevice with
  | error e => exact hSame
  | ok device =>
      refine { hSame with devices_eq := ?_ }
      intro d _ hOther
      have hNe : d ≠ device := by
        rintro rfl
        exact hOther hCurrent
      rw [get_devices_withDevice, if_neg hNe]

end Context

------------------------------------------------------------
-- Operations without a backend
------------------------------------------------------------

namespace Context

/-
  No backend is current, and the error says why: there is no
  scope, or the innermost one has no backend.
-/
inductive Idle
    (ctx : Context n β) : ProgramError → Prop where
  | noActiveScope
      (hFrames : ctx.frames = []) :
      Idle ctx .noActiveScope
  | noBackend
      (frame : Frame n)
      (outer : List (Frame n))
      (hFrames : ctx.frames = frame :: outer)
      (hDevice : frame.device = none) :
      Idle ctx .noBackend

theorem Idle.currentDevice_eq
    {ctx : Context n β}
    {e : ProgramError}
    (hIdle : ctx.Idle e) :
    ctx.currentDevice = .error e := by
  cases hIdle with
  | noActiveScope hFrames => exact currentDevice_of_nil hFrames
  | noBackend frame outer hFrames hDevice =>
      rw [currentDevice_of_cons hFrames, hDevice]

end Context

namespace Instruction

/-
  An instruction that puts some request to a backend. Arrays of
  no qubits need none.
-/
def NeedsBackend : Instruction R → Prop
  | allocateArray count => count ≠ 0
  | releaseArray qs => qs ≠ []
  | ghz count => count ≠ 0
  | fail _ => False
  | rejected _ => False
  | depth => False
  | config => False
  | _ => True

/-
  Without a current backend the first request of an instruction
  fails, and nothing changes.
-/
theorem perform_run_of_idle
    {i : Instruction R}
    (hNeeds : i.NeedsBackend)
    {ctx : Context n β}
    {e : ProgramError}
    (hIdle : ctx.currentDevice = .error e) :
    i.run.perform ctx = (.error e, ctx) := by
  have hBackend :
      ∀ {γ : Type} (action : Action β BackendError γ),
        (Context.onBackend action).perform ctx =
          (.error e, ctx) := by
    intro γ action
    rw [Context.perform_onBackend, hIdle]
  have hAsk :
      ∀ {γ : Type} (ask : β → Except BackendError γ),
        (Context.askBackend ask).perform ctx =
          (.error e, ctx) := by
    intro γ ask
    rw [Context.perform_askBackend, hIdle]
  have hArray :
      ∀ count,
        count ≠ 0 →
          (Allocation.allocateArray count).perform ctx =
            (.error e, ctx) := by
    intro count hCount
    obtain ⟨remaining, rfl⟩ :=
      Nat.exists_eq_succ_of_ne_zero hCount
    simp [Allocation.allocateArray, Allocation.allocateMore,
      Allocation.rollBack, Context.allocateQubit, hBackend]
  cases i with
  | fail reason => exact hNeeds.elim
  | rejected cause => exact hNeeds.elim
  | depth => exact hNeeds.elim
  | config => exact hNeeds.elim
  | allocateArray count =>
      simp [run, hArray count hNeeds, Except.map]
  | releaseArray qs =>
      cases qs with
      | nil => exact absurd rfl hNeeds
      | cons q rest =>
          simp [run, Allocation.releaseArray,
            Context.releaseQubit, hBackend]
  | ghz count =>
      simp [run, Protocol.ghz, if_neg hNeeds,
        hArray count hNeeds]
  | bellPair =>
      simp [run, Protocol.bellPair, hArray 2]
  | teleport angle =>
      simp [run, Protocol.teleport, hArray 3]
  | resultEqual r₁ r₂ =>
      simp [run, Context.areEqualResults, hAsk, Except.map]
  | resultValue r =>
      simp [run, Context.resultValue, hAsk, Except.map]
  | resultZero =>
      simp [run, Context.zeroResult, hAsk, Except.map]
  | resultOne =>
      simp [run, Context.oneResult, hAsk, Except.map]
  | backendName =>
      simp [run, Context.backendName, hAsk, Except.map]
  | _ =>
      simp [run, Intrinsic.cnot, Intrinsic.cz, Intrinsic.swap,
        Intrinsic.reset, Intrinsic.measureBit,
        Intrinsic.measureZ, Context.allocateQubit,
        Context.releaseQubit, Context.apply,
        Context.applyControlled, Context.measure,
        Context.releaseResult, hBackend, Except.map]

end Instruction

------------------------------------------------------------
-- Programs in a scope of their own
------------------------------------------------------------

/-
  What a program answers, from its own outcome and from the end
  of its scope: its own error first, then a leak.
-/
def conclusion :
    Except ProgramError α →
      Except ProgramError LeakReport →
        Except ProgramError (α × LeakReport)
  | .error e, _ => .error e
  | .ok _, .error leak => .error leak
  | .ok value, .ok report => .ok (value, report)

/- Concluding a program finishes its scope once. -/
theorem Context.perform_concludeProgram
    (outcome : Except ProgramError α)
    (ctx : Context n β) :
    ∃ notices,
      (concludeProgram outcome).perform ctx =
        (conclusion outcome (finish.perform ctx).1,
          (finish.perform ctx).2.withNotices notices) := by
  simp only [concludeProgram, Action.perform_bind,
    Action.perform_attempt]
  rcases outcome with e | value <;>
    rcases finish.perform ctx with ⟨leak | report, after⟩
  · exact ⟨[.failedAndLeaked leak], rfl⟩
  · exact ⟨[], by rw [withNotices_nil]; rfl⟩
  · exact ⟨[], by rw [withNotices_nil]; rfl⟩
  · exact ⟨[], by rw [withNotices_nil]; rfl⟩

/-
  What has become of a context after a program has run on top
  of it, and what the program has answered. `inside` is what
  the entry came to in the scope of the program.
-/
structure Context.RanProgram
    (ctx : Context n β)
    (device : Fin n)
    (inside : Except ProgramError α × Context n β)
    (ran : Except ProgramError (α × LeakReport) × Context n β) :
    Prop where
  frames_inside :
    ∃ frame,
      frame.device = some device ∧
        inside.2.frames = frame :: ctx.frames
  frames_eq :
    ran.2.frames = ctx.frames
  config_eq :
    ran.2.config = ctx.config
  held_eq :
    ∀ d ∈ ctx.held, ran.2.devices.get d = ctx.devices.get d
  finished_once :
    ran.2.devices = (finish.perform inside.2).2.devices
  answer_eq :
    ran.1 = conclusion inside.1 (finish.perform inside.2).1
  leaked :
    ∀ e,
      (finish.perform inside.2).1 = .error e →
        ∃ report, e = .leaked report

/- A program of composed steps runs on top of any context. -/
theorem Routine.Composed.ranProgram
    {access : Access}
    {ctx : Context n β}
    {device : Fin n}
    {entry : Routine R n α}
    (hFree : device ∉ ctx.held)
    (hEntry :
      Routine.Composed access (insert device ctx.held) entry)
    (track : Bool) :
    ctx.RanProgram device
      ((entry β).perform (ctx.opened (some device) track))
      ((Context.runProgram device track (entry β)).perform ctx) := by
  have hDevice :
      ∀ d, some device = some d → d ∈ insert device ctx.held := by
    rintro d hEq
    cases hEq
    exact Set.mem_insert device ctx.held
  rcases hEntry.advance_opened hDevice ctx track with
    ⟨events, hAdvance⟩
  rcases hInside :
      (entry β).perform (ctx.opened (some device) track) with
    ⟨outcome, inside⟩
  rw [hInside] at hAdvance
  rcases hAdvance.frames_opened with ⟨change, hFrames⟩
  have hFinish := inside.perform_closeScope hFrames
  rcases Context.perform_concludeProgram outcome inside with
    ⟨notices, hConclude⟩
  simp only [Context.runProgram, Action.perform_bind,
    Context.perform_openScope, Action.perform_attempt, hInside,
    hConclude]
  exact
    { frames_inside := ⟨_, rfl, hFrames⟩
      frames_eq := by
        rw [Context.finish, hFinish]
        rfl
      config_eq := by
        rw [Context.finish, hFinish]
        exact hAdvance.config_eq
      held_eq := by
        intro d hHeld
        have hNe : device ≠ d := by
          rintro rfl
          exact hFree hHeld
        have hOther :
            (ctx.opened (some device) track).currentDevice ≠
              .ok d := by
          intro hEq
          cases Context.device_of_currentDevice_opened hEq
          exact hNe rfl
        have hInside :=
          hAdvance.others_eq d (Set.mem_insert_of_mem device hHeld)
            hOther
        rw [Context.finish, hFinish]
        refine (Frame.get_devices_settle ?_ _ _).trans hInside
        intro hEq
        cases hEq
        exact hNe rfl
      finished_once := rfl
      answer_eq := rfl
      leaked := by
        intro e hError
        rw [Context.finish, hFinish, LeakPolicy.verdict] at hError
        split at hError
        · cases hError
          exact ⟨_, rfl⟩
        · cases hError }

/-
  A script runs as a program of composed steps, up to the first
  step that stops it.
-/
theorem ranProgram_script
    [Observable R β]
    {ctx : Context n β}
    {device : Fin n}
    (hFree : device ∉ ctx.held)
    (track : Bool)
    {body : List (Step R n)}
    (hBody : ScopedSteps (insert device ctx.held) body) :
    let run := runUntilFailure body (ctx.opened (some device) track)
    ∃ ending after,
      (Step.program device track body).run ctx =
          (.program run.1.1 ending ctx.depth, after) ∧
        ctx.RanProgram device
          (scriptEnding body.length run.1.2, run.2)
          (ending, after) := by
  intro run
  rcases runUntilFailure_composed body hBody with
    ⟨routine, hComposed, hPerforms⟩
  let entry : Routine R n Nat := fun β => routine β >>= fun ends =>
    Action.query fun _ => scriptEnding body.length ends.2
  have hEntry :
      Routine.Composed .recorded (insert device ctx.held) entry :=
    .bind hComposed fun ends =>
      .view fun _ _ => scriptEnding body.length ends.2
  have hInside :
      (entry β).perform (ctx.opened (some device) track) =
        (scriptEnding body.length run.1.2, run.2) := by
    simp only [entry, Action.perform_bind, hPerforms β,
      Action.perform_query]
    rfl
  have hProgram :
      (Context.runProgram device track (entry β)).perform ctx =
        (Context.concludeProgram
          (scriptEnding body.length run.1.2)).perform run.2 := by
    simp only [Context.runProgram, Action.perform_bind,
      Context.perform_openScope, Action.perform_attempt, hInside]
  have hRan := hEntry.ranProgram (β := β) hFree track
  rw [hInside, hProgram] at hRan
  refine ⟨_, _, ?_, hRan⟩
  have hDepth := congrArg List.length hRan.frames_eq
  rw [Step.run_program, Context.depth, hDepth]
  rfl

------------------------------------------------------------
-- Nesting
------------------------------------------------------------

/-
  Instructions, direct accesses and composed programs reach the
  innermost scope only, and what needs a backend fails without
  changing anything when that scope has none, whatever the
  scopes around it have. A program in a scope of its own leaves
  the stack of scopes as it was, ends its scope once, and
  answers with its own error, with a leak, or with its value
  and a report; so does a program that is a script of steps and
  nested scopes.
-/
theorem scopes_nest_without_interference :
    (∀ (ctx : Context n β) (i : Instruction R),
      ctx.InnermostOnly Set.univ (i.run.perform ctx).2) ∧
    (∀ (ctx : Context n β) (action : Action β BackendError α),
      ctx.InnermostOnly Set.univ
        ((Context.onBackend action).perform ctx).2) ∧
    (∀ (ctx : Context n β) (e : ProgramError),
      ctx.Idle e →
        (∀ i : Instruction R,
          i.NeedsBackend → i.run.perform ctx = (.error e, ctx)) ∧
        ∀ action : Action β BackendError α,
          (Context.onBackend action).perform ctx =
            (.error e, ctx)) ∧
    (∀ (ctx : Context n β) (access : Access)
      (program : Routine R n α),
      Routine.Composed access ctx.held program →
        ctx.InnermostOnly ctx.held
          ((program β).perform ctx).2) ∧
    (∀ (ctx : Context n β) (device : Fin n) (track : Bool)
      (access : Access) (entry : Routine R n α),
      device ∉ ctx.held →
        Routine.Composed access (insert device ctx.held) entry →
          ctx.RanProgram device
            ((entry β).perform (ctx.opened (some device) track))
            ((Context.runProgram device track (entry β)).perform
              ctx)) ∧
    ∀ [Observable R β] (ctx : Context n β) (device : Fin n)
      (track : Bool) (body : List (Step R n)),
      device ∉ ctx.held →
        ScopedSteps (insert device ctx.held) body →
          let run :=
            runUntilFailure body (ctx.opened (some device) track)
          ∃ ending after,
            (Step.program device track body).run ctx =
                (.program run.1.1 ending ctx.depth, after) ∧
              ctx.RanProgram device
                (scriptEnding body.length run.1.2, run.2)
                (ending, after) := by
  refine ⟨?_, ?_, ?_, ?_, ?_, ?_⟩
  · intro ctx i
    have hComposed :
        Routine.Composed (R := R) (n := n) .recorded Set.univ
          fun _ => i.run :=
      .instruction i
    rcases hComposed.advance ctx fun d _ => Set.mem_univ d with
      ⟨events, hAdvance⟩
    exact hAdvance.innermostOnly
  · intro ctx action
    exact ctx.innermostOnly_onBackend action
  · intro ctx e hIdle
    refine ⟨fun i hNeeds => ?_, fun action => ?_⟩
    · exact i.perform_run_of_idle hNeeds hIdle.currentDevice_eq
    · rw [Context.perform_onBackend, hIdle.currentDevice_eq]
  · intro ctx access program hComposed
    rcases hComposed.advance ctx fun d hCurrent =>
        Context.mem_held_of_currentDevice hCurrent with
      ⟨events, hAdvance⟩
    exact hAdvance.innermostOnly
  · intro ctx device track access entry hFree hEntry
    exact hEntry.ranProgram hFree track
  · intro _ ctx device track body hFree hBody
    exact ranProgram_script hFree track hBody

/-
  A program that fails inside a scope on another backend leaves
  that scope alone and answers with its own error. In a scope
  without a backend it does not reach that backend either.
-/
theorem failing_program_leaves_outer_scope :
    let ctx : Context 2 (Builtin Float) :=
      (Context.start RunConfig.standard
          #v[.stub { name := "outer" },
            .stub { name := "inner" }]).opened
        (some 0) true
    let entry : Routine Float 2 Value :=
      fun _ => Instruction.run .allocate
    let step : Step Float 2 := .instruction .allocate
    ctx.RanProgram 1
        ((entry _).perform (ctx.opened (some 1) true))
        ((Context.runProgram 1 true (entry _)).perform ctx) ∧
      ((Context.runProgram 1 true (entry _)).perform ctx).1 =
        .error (.backend (.unsupported "inner" "allocate_qubit")) ∧
      (entry _).perform (ctx.opened none true) =
        (.error .noBackend, ctx.opened none true) ∧
      ∃ ending after,
        (Step.program 1 true [step]).run ctx =
            (.program [] ending 1, after) ∧
          after.frames = ctx.frames := by
  intro ctx entry step
  have hFree : (1 : Fin 2) ∉ ctx.held := by
    rintro ⟨frame, hFrame, hDevice⟩
    cases List.mem_singleton.mp hFrame
    cases hDevice
  have hEntry :
      Routine.Composed .recorded (insert 1 ctx.held) entry :=
    .instruction .allocate
  have hIdle : (ctx.opened none true).Idle .noBackend :=
    .noBackend (Frame.fresh none true) ctx.frames rfl rfl
  rcases scopes_nest_without_interference
      (R := Float) (n := 2) (β := Builtin Float) (α := Value) with
    ⟨-, -, hIdles, -, hPrograms, hScripts⟩
  have hBody : ScopedSteps (insert 1 ctx.held) [step] := by
    simp [ScopedSteps, step, Step.Scoped]
  refine ⟨hPrograms ctx 1 true .recorded entry hFree hEntry, rfl,
    (hIdles _ .noBackend hIdle).1 .allocate trivial, ?_⟩
  rcases hScripts ctx 1 true [step] hFree hBody with
    ⟨ending, after, hRun, hRan⟩
  exact ⟨ending, after, hRun, hRan.frames_eq⟩

end QuantumRuntime

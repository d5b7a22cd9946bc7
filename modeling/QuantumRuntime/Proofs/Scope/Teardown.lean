import QuantumRuntime.Proofs.Scope.Requests
import QuantumRuntime.Scope.Teardown
import QuantumRuntime.Backend.Stub

/-
  This file proves what the end of a scope does. Releasing the
  handles that a scope owes is one run of requests, results
  before qubits, and the answers divide the handles into
  reclaimed and leaked ones. What the end of a scope comes to
  is a function of its frame, the configuration and the
  backends, and both ways of ending a scope come to it.

  Key definitions include:
    * `LeakReport.settledBy`
    * `Frame.settle`
    * `LeakPolicy.verdict`
    * `Context.closed`
    * `Frame.Settled`

  Key theorems include:
    * `Context.perform_reclaim`
    * `Context.perform_closeScope`
    * `Context.perform_dropScope`
    * `Context.teardown_accounts_for_every_handle`
-/

namespace QuantumRuntime

------------------------------------------------------------
-- Answers to the release of handles
------------------------------------------------------------

section

variable {K L : Type}

/- The keys whose requests were accepted, in their order. -/
def acceptedOf
    (keys : List K)
    (answers : List (Except BackendError Reply)) : List K :=
  ((keys.zip answers).filter fun pair => pair.2.isOk).map Prod.fst

/- The keys whose requests were refused, in their order. -/
def refusedOf
    (keys : List K)
    (answers : List (Except BackendError Reply)) : List K :=
  ((keys.zip answers).filter fun pair => !pair.2.isOk).map Prod.fst

/- The notices about refused requests, in their order. -/
def refusalNotices
    (notice : K → BackendError → Notice)
    (keys : List K)
    (answers : List (Except BackendError Reply)) : List Notice :=
  (keys.zip answers).filterMap fun pair =>
    match pair.2 with
    | .ok _ => none
    | .error cause => some (notice pair.1 cause)

theorem acceptedOf_map
    (f : K → L)
    (keys : List K)
    (answers : List (Except BackendError Reply)) :
    acceptedOf (keys.map f) answers =
      (acceptedOf keys answers).map f := by
  simp [acceptedOf, List.zip_map_left, List.filter_map, Function.comp_def]

theorem refusedOf_map
    (f : K → L)
    (keys : List K)
    (answers : List (Except BackendError Reply)) :
    refusedOf (keys.map f) answers =
      (refusedOf keys answers).map f := by
  simp [refusedOf, List.zip_map_left, List.filter_map, Function.comp_def]

theorem refusalNotices_map
    (f : K → L)
    (notice : L → BackendError → Notice)
    (keys : List K)
    (answers : List (Except BackendError Reply)) :
    refusalNotices notice (keys.map f) answers =
      refusalNotices (fun key => notice (f key)) keys answers := by
  simp only [refusalNotices, List.zip_map_left,
    List.filterMap_map]
  rfl

theorem acceptedOf_append
    {first second : List K}
    {answers₁ answers₂ : List (Except BackendError Reply)}
    (hLength : first.length = answers₁.length) :
    acceptedOf (first ++ second) (answers₁ ++ answers₂) =
      acceptedOf first answers₁ ++ acceptedOf second answers₂ := by
  simp [acceptedOf, List.zip_append hLength]

theorem refusedOf_append
    {first second : List K}
    {answers₁ answers₂ : List (Except BackendError Reply)}
    (hLength : first.length = answers₁.length) :
    refusedOf (first ++ second) (answers₁ ++ answers₂) =
      refusedOf first answers₁ ++ refusedOf second answers₂ := by
  simp [refusedOf, List.zip_append hLength]

theorem refusalNotices_append
    {first second : List K}
    {answers₁ answers₂ : List (Except BackendError Reply)}
    (notice : K → BackendError → Notice)
    (hLength : first.length = answers₁.length) :
    refusalNotices notice (first ++ second) (answers₁ ++ answers₂) =
      refusalNotices notice first answers₁ ++
        refusalNotices notice second answers₂ := by
  simp [refusalNotices, List.zip_append hLength]

/- Every key is accepted or refused, and none is both. -/
theorem acceptedOf_append_refusedOf_perm
    {keys : List K}
    {answers : List (Except BackendError Reply)}
    (hLength : keys.length = answers.length) :
    (acceptedOf keys answers ++ refusedOf keys answers).Perm keys := by
  have hSplit :=
    List.filter_append_perm
      (fun pair : K × Except BackendError Reply => pair.2.isOk)
      (keys.zip answers)
  have hKeys : (keys.zip answers).map Prod.fst = keys :=
    List.map_fst_zip (Nat.le_of_eq hLength)
  have hMapped := hSplit.map Prod.fst
  rw [List.map_append, hKeys] at hMapped
  exact hMapped

@[simp] theorem refusedOf_nil
    (answers : List (Except BackendError Reply)) :
    refusedOf ([] : List K) answers = [] :=
  rfl

@[simp] theorem acceptedOf_cons_ok
    (key : K)
    (reply : Reply)
    (keys : List K)
    (answers : List (Except BackendError Reply)) :
    acceptedOf (key :: keys) (.ok reply :: answers) =
      key :: acceptedOf keys answers :=
  rfl

@[simp] theorem acceptedOf_cons_error
    (key : K)
    (e : BackendError)
    (keys : List K)
    (answers : List (Except BackendError Reply)) :
    acceptedOf (key :: keys) (.error e :: answers) =
      acceptedOf keys answers :=
  rfl

@[simp] theorem refusedOf_cons_ok
    (key : K)
    (reply : Reply)
    (keys : List K)
    (answers : List (Except BackendError Reply)) :
    refusedOf (key :: keys) (.ok reply :: answers) =
      refusedOf keys answers :=
  rfl

@[simp] theorem refusedOf_cons_error
    (key : K)
    (e : BackendError)
    (keys : List K)
    (answers : List (Except BackendError Reply)) :
    refusedOf (key :: keys) (.error e :: answers) =
      key :: refusedOf keys answers :=
  rfl

end

------------------------------------------------------------
-- Settlements
------------------------------------------------------------

namespace Notice

/- The notice about a handle whose release was refused. -/
def notReclaimed
    (handle : Handle)
    (cause : BackendError) : Notice :=
  match handle with
  | .qubit q => notReclaimedQubit q cause
  | .result r => notReclaimedResult r cause

end Notice

namespace LeakReport

/- The handles of a report that are still live, results first. -/
def owed
    (report : LeakReport) : List Handle :=
  report.results.map Handle.result ++
    report.qubits.map Handle.qubit

/- The report after its handles have been asked for release. -/
def settledBy
    (report : LeakReport)
    (answers : List (Except BackendError Reply)) : LeakReport :=
  { qubits :=
      refusedOf report.qubits (answers.drop report.results.length)
    results := refusedOf report.results answers
    reclaimed := report.reclaimed ++ acceptedOf report.owed answers }

/- Results are settled by the first answers, qubits by the rest. -/
theorem settledBy_append
    (report : LeakReport)
    {first second : List (Except BackendError Reply)}
    (hLength : report.results.length = first.length) :
    report.settledBy (first ++ second) =
      { qubits := refusedOf report.qubits second
        results := refusedOf report.results first
        reclaimed :=
          report.reclaimed ++
            (acceptedOf report.results first).map Handle.result ++
            (acceptedOf report.qubits second).map Handle.qubit } := by
  have hRefused :
      refusedOf (report.results ++ []) (first ++ second) =
        refusedOf report.results first ++ refusedOf [] second :=
    refusedOf_append hLength
  have hOwed :
      (report.results.map Handle.result).length = first.length := by
    rw [List.length_map, hLength]
  rw [List.append_nil, refusedOf_nil, List.append_nil] at hRefused
  rw [settledBy, owed, acceptedOf_append hOwed, acceptedOf_map,
    acceptedOf_map, hRefused, hLength, List.drop_left,
    List.append_assoc]

/- The notices about refusals, results first. -/
theorem refusalNotices_owed_append
    (report : LeakReport)
    {first second : List (Except BackendError Reply)}
    (hLength : report.results.length = first.length) :
    refusalNotices Notice.notReclaimed report.owed
        (first ++ second) =
      refusalNotices Notice.notReclaimedResult report.results
          first ++
        refusalNotices Notice.notReclaimedQubit report.qubits
          second := by
  have hOwed :
      (report.results.map Handle.result).length = first.length := by
    rw [List.length_map, hLength]
  rw [owed, refusalNotices_append _ hOwed, refusalNotices_map,
    refusalNotices_map]
  rfl

end LeakReport

/-
  What the end of a scope comes to: its report, the notices
  about refusals, and the backends after it.
-/
structure Settlement (n : Nat) (β : Type) where
  report : LeakReport
  notices : List Notice
  devices : Vector β n

namespace Frame

variable {n : Nat} {β R : Type} [Scalar R] [Backend R β]

/-
  Settle what a frame owes. Handles are asked for release only
  if the configuration says so and there is a backend to ask.
-/
def settle
    (config : RunConfig)
    (devices : Vector β n)
    (frame : Frame n) : Settlement n β :=
  match frame.tracker with
  | none =>
      { report := LeakReport.clean
        notices := []
        devices := devices }
  | some tracker =>
      match frame.device with
      | some device =>
          if config.releaseOnTeardown ∧ tracker.report.HasLeaks then
            let owed := tracker.report.owed
            let run :=
              runRequests (devices.get device)
                (owed.map Handle.releaseRequest)
            { report := tracker.report.settledBy run.1
              notices := refusalNotices Notice.notReclaimed owed run.1
              devices := devices.set device run.2 device.isLt }
          else
            { report := tracker.report
              notices := []
              devices := devices }
      | none =>
          { report := tracker.report
            notices := []
            devices := devices }

end Frame

namespace LeakPolicy

/- How a scope with a report ends under a policy. -/
def verdict
    (policy : LeakPolicy)
    (report : LeakReport) : Except ProgramError LeakReport :=
  if policy = .fail ∧ report.HasLeaks then
    .error (.leaked report)
  else
    .ok report

/- What is noted of a scope at a depth with a report. -/
def notices
    (policy : LeakPolicy)
    (depth : Nat)
    (report : LeakReport) : List Notice :=
  match policy with
  | .ignore => []
  | .warn =>
      if report.IsClean then [] else [.scopeLeaked depth report]
  | .fail =>
      if report.HasLeaks ∨ report.reclaimed = [] then
        []
      else
        [.scopeReclaimed depth report]

/- What is noted of a scope that was dropped with a report. -/
def dropNotices
    (policy : LeakPolicy)
    (report : LeakReport) : List Notice :=
  if policy = .fail ∧ report.HasLeaks then
    [.droppedWithLeaks report]
  else
    []

@[simp] theorem verdict_clean
    (policy : LeakPolicy) :
    policy.verdict LeakReport.clean = .ok LeakReport.clean := by
  cases policy <;> rfl

@[simp] theorem notices_clean
    (policy : LeakPolicy)
    (depth : Nat) :
    policy.notices depth LeakReport.clean = [] := by
  cases policy <;> rfl

end LeakPolicy

------------------------------------------------------------
-- Performing the end of a scope
------------------------------------------------------------

namespace Context

variable {n : Nat} {β α : Type}

/- The context after further notices. -/
def withNotices
    (notices : List Notice)
    (ctx : Context n β) : Context n β :=
  { ctx with notices := ctx.notices ++ notices }

@[simp] theorem withNotices_nil
    (ctx : Context n β) :
    ctx.withNotices [] = ctx := by
  simp [withNotices]

@[simp] theorem withNotices_withNotices
    (first second : List Notice)
    (ctx : Context n β) :
    (ctx.withNotices first).withNotices second =
      ctx.withNotices (first ++ second) := by
  simp [withNotices]

@[simp] theorem devices_withNotices
    (notices : List Notice)
    (ctx : Context n β) :
    (ctx.withNotices notices).devices = ctx.devices :=
  rfl

@[simp] theorem withDevice_withNotices
    (device : Fin n)
    (b : β)
    (notices : List Notice)
    (ctx : Context n β) :
    (ctx.withNotices notices).withDevice device b =
      (ctx.withDevice device b).withNotices notices :=
  rfl

@[simp] theorem perform_note
    (notice : Notice)
    (ctx : Context n β) :
    (note notice).perform ctx = (.ok (), ctx.withNotices [notice]) :=
  rfl

/-
  The leak policy decides about a report and notes what there
  is to note, and does nothing else.
-/
theorem perform_applyPolicy
    (depth : Nat)
    (report : LeakReport)
    (ctx : Context n β) :
    (applyPolicy depth report).perform ctx =
      (ctx.config.leakPolicy.verdict report,
        ctx.withNotices
          (ctx.config.leakPolicy.notices depth report)) := by
  simp only [applyPolicy, Action.perform_bind, Action.perform_get]
  cases ctx.config.leakPolicy with
  | ignore => simp [LeakPolicy.verdict, LeakPolicy.notices]
  | warn =>
      by_cases hClean : report.IsClean <;>
        simp [LeakPolicy.verdict, LeakPolicy.notices, hClean,
          Except.map]
  | fail =>
      by_cases hLeaks : report.HasLeaks
      · simp [LeakPolicy.verdict, LeakPolicy.notices, hLeaks]
      · by_cases hNone : report.reclaimed = [] <;>
          simp [LeakPolicy.verdict, LeakPolicy.notices, hLeaks,
            hNone, Except.map]

variable {R : Type} [Scalar R] [Backend R β]

/-
  Releasing each of some handles is a run of requests. The
  answers decide which handles are refused.
-/
theorem perform_releaseEach
    {K : Type}
    (device : Fin n)
    (release : K → Action β BackendError Unit)
    (request : K → Request R)
    (hRequest :
      ∀ key,
        ((request key).run : Action β BackendError Reply) =
          (fun _ => .done) <$> release key)
    (notice : K → BackendError → Notice)
    (keys : List K)
    (ctx : Context n β) :
    let run :=
      runRequests (ctx.devices.get device) (keys.map request)
    (releaseEach device release notice keys).perform ctx =
      (.ok (refusedOf keys run.1, acceptedOf keys run.1),
        (ctx.withDevice device run.2).withNotices
          (refusalNotices notice keys run.1)) := by
  induction keys generalizing ctx with
  | nil =>
      simp [releaseEach, refusedOf, acceptedOf, refusalNotices,
        withDevice_get]
  | cons key rest ih =>
      simp only [List.map_cons, runRequests_cons, hRequest,
        Action.perform_map, releaseEach, Action.perform_bind,
        perform_onDevice, Action.perform_attempt]
      rcases (release key).perform (ctx.devices.get device) with
        ⟨e | _, b⟩ <;>
        simp [ih, get_devices_withDevice, withDevice_withDevice,
          Except.map, refusalNotices]

/-
  Reclaiming asks for the release of all that is owed, results
  before qubits, and of nothing else.
-/
theorem perform_reclaim
    (device : Fin n)
    (report : LeakReport)
    (ctx : Context n β) :
    let run :=
      runRequests (ctx.devices.get device)
        (report.owed.map Handle.releaseRequest)
    (reclaim device report).perform ctx =
      (.ok (report.settledBy run.1),
        (ctx.withDevice device run.2).withNotices
          (refusalNotices Notice.notReclaimed report.owed run.1)) := by
  have hOwed :
      report.owed.map Handle.releaseRequest =
        report.results.map (Request.releaseResult (R := R)) ++
          report.qubits.map Request.releaseQubit := by
    simp [LeakReport.owed, Handle.releaseRequest,
      Function.comp_def]
  have hResults := fun ctx : Context n β =>
    perform_releaseEach device Backend.releaseResult
      Request.releaseResult (fun _ => rfl)
      Notice.notReclaimedResult report.results ctx
  have hQubits := fun ctx : Context n β =>
    perform_releaseEach device Backend.releaseQubit
      Request.releaseQubit (fun _ => rfl)
      Notice.notReclaimedQubit report.qubits ctx
  simp only [reclaim, Action.perform_bind, hResults, hQubits,
    Action.perform_pure, hOwed, runRequests_append,
    devices_withNotices, get_devices_withDevice, if_pos,
    withDevice_withNotices, withDevice_withDevice,
    withNotices_withNotices]
  rw [report.settledBy_append (by simp),
    report.refusalNotices_owed_append (by simp)]

/-
  The context after its innermost frame has been settled and
  taken off the stack.
-/
def closed
    (frame : Frame n)
    (outer : List (Frame n))
    (ctx : Context n β) : Context n β :=
  let settlement := frame.settle ctx.config ctx.devices
  { config := ctx.config
    frames := outer
    devices := settlement.devices
    notices :=
      ctx.notices ++ settlement.notices ++
        ctx.config.leakPolicy.notices (outer.length + 1)
          settlement.report }

/-
  Closing a scope takes its frame off the stack and settles
  what the frame owes; the leak policy decides the outcome.
-/
theorem perform_closeScope
    {frame : Frame n}
    {outer : List (Frame n)}
    (ctx : Context n β)
    (hFrames : ctx.frames = frame :: outer) :
    (closeScope : Program n β LeakReport).perform ctx =
      (ctx.config.leakPolicy.verdict
          (frame.settle ctx.config ctx.devices).report,
        ctx.closed frame outer) := by
  simp only [closed, closeScope, popFrame, Action.perform_bind,
    Action.perform_get, hFrames, Action.perform_modify,
    Action.perform_pure]
  cases hTracker : frame.tracker with
  | none =>
      simp only [Frame.settle, hTracker,
        LeakPolicy.verdict_clean, LeakPolicy.notices_clean,
        List.append_nil, Action.perform_pure]
  | some tracker =>
      cases hDevice : frame.device with
      | none =>
          simp only [Frame.settle, hTracker, hDevice,
            perform_applyPolicy, List.append_nil]
          rfl
      | some device =>
          simp only [Frame.settle, hTracker, hDevice]
          by_cases hReclaim :
              ctx.config.releaseOnTeardown = true ∧
                tracker.report.HasLeaks
          · simp only [if_pos hReclaim, Action.perform_bind,
              perform_reclaim, perform_applyPolicy,
              withNotices_withNotices, List.append_assoc]
            rfl
          · simp only [if_neg hReclaim, perform_applyPolicy,
              List.append_nil]
            rfl

/-
  Dropping a scope comes to the same settlement as closing it.
  It never fails; a failure of the close is noted instead.
-/
theorem perform_dropScope
    {frame : Frame n}
    {outer : List (Frame n)}
    (ctx : Context n β)
    (hFrames : ctx.frames = frame :: outer) :
    (dropScope : Program n β Unit).perform ctx =
      (.ok (),
        (ctx.closed frame outer).withNotices
          (ctx.config.leakPolicy.dropNotices
            (frame.settle ctx.config ctx.devices).report)) := by
  by_cases hFail :
      ctx.config.leakPolicy = .fail ∧
        (frame.settle ctx.config ctx.devices).report.HasLeaks
  · simp only [dropScope, Action.perform_bind,
      Action.perform_attempt, ctx.perform_closeScope hFrames,
      LeakPolicy.verdict, LeakPolicy.dropNotices, if_pos hFail,
      perform_note]
  · simp only [dropScope, Action.perform_bind,
      Action.perform_attempt, ctx.perform_closeScope hFrames,
      LeakPolicy.verdict, LeakPolicy.dropNotices, if_neg hFail,
      Action.perform_pure, withNotices_nil]

end Context

------------------------------------------------------------
-- Accounts of the end of a scope
------------------------------------------------------------

/- The handles of a report that are still live are in order. -/
structure LeakReport.Ascending
    (report : LeakReport) : Prop where
  qubits : report.qubits.Pairwise fun a b => a.raw < b.raw
  results : report.results.Pairwise fun a b => a.raw < b.raw

/- A record reports its handles in order. -/
theorem Tracker.report_ascending
    (tracker : Tracker) :
    tracker.report.Ascending where
  qubits :=
    tracker.qubits.ordered_toList.imp fun hLess =>
      Nat.compare_eq_lt.mp hLess
  results :=
    tracker.results.ordered_toList.imp fun hLess =>
      Nat.compare_eq_lt.mp hLess

theorem refusedOf_sublist
    {K : Type}
    {keys : List K}
    {answers : List (Except BackendError Reply)}
    (hLength : keys.length ≤ answers.length) :
    (refusedOf keys answers).Sublist keys := by
  have hKeys : (keys.zip answers).map Prod.fst = keys :=
    List.map_fst_zip hLength
  have hFilter :
      ((keys.zip answers).filter fun pair => !pair.2.isOk).Sublist
        (keys.zip answers) :=
    List.filter_sublist
  have hMapped := hFilter.map Prod.fst
  rw [hKeys] at hMapped
  exact hMapped

namespace Frame

variable {n : Nat} {β R : Type} [Scalar R] [Backend R β]

/-
  A frame with a record and a backend is asked to release what
  the record lists.
-/
structure Reclaims
    (frame : Frame n)
    (config : RunConfig)
    (tracker : Tracker)
    (device : Fin n) : Prop where
  tracker_eq : frame.tracker = some tracker
  device_eq : frame.device = some device
  releases : config.releaseOnTeardown = true
  owes : tracker.report.HasLeaks

/-
  The account of a frame that has ended with a report and has
  left some backends. If handles are reclaimed, then one
  backend has run their releases in ascending order, results
  before qubits, and each of them is either reclaimed or still
  reported. Otherwise the backends are as they were, and the
  report is that of the record.
-/
structure Settled
    (frame : Frame n)
    (config : RunConfig)
    (before : Vector β n)
    (report : LeakReport)
    (after : Vector β n) : Prop where
  reclaimed :
    ∀ tracker device,
      frame.Reclaims config tracker device →
        let owed :=
          tracker.results.toList.map Handle.result ++
            tracker.qubits.toList.map Handle.qubit
        let run :=
          runRequests (before.get device)
            (owed.map Handle.releaseRequest)
        after = before.set device run.2 device.isLt ∧
          report.reclaimed = acceptedOf owed run.1 ∧
          report.owed = refusedOf owed run.1 ∧
          (report.reclaimed ++ report.owed).Perm owed
  kept :
    (∀ tracker device, ¬ frame.Reclaims config tracker device) →
      after = before ∧
        report =
          match frame.tracker with
          | some tracker =>
              { qubits := tracker.qubits.toList
                results := tracker.results.toList
                reclaimed := [] }
          | none => LeakReport.clean
  owed_ascending :
    ∀ tracker,
      frame.tracker = some tracker → tracker.report.Ascending
  report_ascending : report.Ascending

end Frame

namespace LeakReport

/- What is refused of a report stays in it. -/
theorem owed_settledBy
    (report : LeakReport)
    {answers : List (Except BackendError Reply)}
    (hLength : answers.length = report.owed.length) :
    (report.settledBy answers).owed =
      refusedOf report.owed answers := by
  have hSplit :
      report.results.length =
        (answers.take report.results.length).length := by
    simp [hLength, owed]
  have hOwed :
      (report.results.map Handle.result).length =
        (answers.take report.results.length).length := by
    rw [List.length_map, ← hSplit]
  rw [← answers.take_append_drop report.results.length,
    report.settledBy_append hSplit]
  simp only [owed]
  rw [refusedOf_append hOwed, refusedOf_map, refusedOf_map]

/- What is refused of a report in order stays in order. -/
theorem Ascending.settledBy
    {report : LeakReport}
    (hAscending : report.Ascending)
    {answers : List (Except BackendError Reply)}
    (hLength : answers.length = report.owed.length) :
    (report.settledBy answers).Ascending := by
  have hOwed :
      answers.length =
        report.results.length + report.qubits.length := by
    rw [hLength, owed, List.length_append, List.length_map,
      List.length_map]
  constructor
  · refine List.Pairwise.sublist (refusedOf_sublist ?_)
      hAscending.qubits
    rw [List.length_drop]
    omega
  · refine List.Pairwise.sublist (refusedOf_sublist ?_)
      hAscending.results
    omega

end LeakReport

namespace Frame

variable {n : Nat} {β R : Type} [Scalar R] [Backend R β]

theorem reclaims_or_keeps
    (frame : Frame n)
    (config : RunConfig) :
    (∃ tracker device, frame.Reclaims config tracker device) ∨
      ∀ tracker device, ¬ frame.Reclaims config tracker device := by
  by_cases hReclaims :
      ∃ tracker device, frame.Reclaims config tracker device
  · exact .inl hReclaims
  · exact .inr fun tracker device hHere =>
      hReclaims ⟨tracker, device, hHere⟩

/- A frame that reclaims settles by a run of releases. -/
theorem Reclaims.settle_eq
    {frame : Frame n}
    {config : RunConfig}
    {tracker : Tracker}
    {device : Fin n}
    (hReclaims : frame.Reclaims config tracker device)
    (devices : Vector β n) :
    let owed := tracker.report.owed
    let run :=
      runRequests (devices.get device)
        (owed.map Handle.releaseRequest)
    frame.settle config devices =
      { report := tracker.report.settledBy run.1
        notices := refusalNotices Notice.notReclaimed owed run.1
        devices := devices.set device run.2 device.isLt } := by
  simp only [settle, hReclaims.tracker_eq, hReclaims.device_eq,
    if_pos (And.intro hReclaims.releases hReclaims.owes)]

/- A frame that does not reclaim reports its record. -/
theorem settle_of_not_reclaims
    {frame : Frame n}
    {config : RunConfig}
    (hKeeps :
      ∀ tracker device, ¬ frame.Reclaims config tracker device)
    (devices : Vector β n) :
    frame.settle config devices =
      { report :=
          match frame.tracker with
          | some tracker => tracker.report
          | none => LeakReport.clean
        notices := []
        devices := devices } := by
  cases hTracker : frame.tracker with
  | none => simp only [settle, hTracker]
  | some tracker =>
      cases hDevice : frame.device with
      | none => simp only [settle, hTracker, hDevice]
      | some device =>
          have hNot :
              ¬ (config.releaseOnTeardown = true ∧
                tracker.report.HasLeaks) := by
            rintro ⟨hReleases, hOwes⟩
            exact hKeeps tracker device
              ⟨hTracker, hDevice, hReleases, hOwes⟩
          simp only [settle, hTracker, hDevice, if_neg hNot]

/- Settling a frame reaches no backend but its own. -/
theorem get_devices_settle
    {frame : Frame n}
    {other : Fin n}
    (hOther : frame.device ≠ some other)
    (config : RunConfig)
    (devices : Vector β n) :
    (frame.settle config devices).devices.get other =
      devices.get other := by
  rcases frame.reclaims_or_keeps config with
    ⟨tracker, device, hReclaims⟩ | hKeeps
  · have hNe : device.val ≠ other.val := by
      intro hEq
      apply hOther
      rw [hReclaims.device_eq, Fin.ext hEq]
    rw [hReclaims.settle_eq devices]
    exact Vector.getElem_set_ne device.isLt other.isLt hNe
  · rw [settle_of_not_reclaims hKeeps]

/- A settlement accounts for what its frame owed. -/
theorem settled_settle
    (frame : Frame n)
    (config : RunConfig)
    (devices : Vector β n) :
    frame.Settled config devices
      (frame.settle config devices).report
      (frame.settle config devices).devices where
  reclaimed := by
    intro tracker device hReclaims
    have hLength :=
      length_runRequests (devices.get device)
        (tracker.report.owed.map
          (Handle.releaseRequest (R := R)))
    rw [List.length_map] at hLength
    have hOwed := tracker.report.owed_settledBy hLength
    rw [hReclaims.settle_eq devices]
    refine ⟨rfl, rfl, hOwed, ?_⟩
    dsimp only
    rw [hOwed]
    exact acceptedOf_append_refusedOf_perm hLength.symm
  kept := by
    intro hKeeps
    rw [settle_of_not_reclaims hKeeps]
    exact ⟨rfl, rfl⟩
  owed_ascending tracker _ := tracker.report_ascending
  report_ascending := by
    rcases frame.reclaims_or_keeps config with
      ⟨tracker, device, hReclaims⟩ | hKeeps
    · rw [hReclaims.settle_eq devices]
      exact tracker.report_ascending.settledBy (by simp)
    · rw [settle_of_not_reclaims hKeeps]
      cases frame.tracker with
      | none => exact ⟨List.Pairwise.nil, List.Pairwise.nil⟩
      | some tracker => exact tracker.report_ascending

end Frame

namespace Context

variable {n : Nat} {β R : Type} [Scalar R] [Backend R β]

/-
  However a scope ends, its frame alone is taken off the stack,
  and what it owed is accounted for. Finishing fails exactly if
  the policy says so and handles are still live; dropping never
  fails.
-/
theorem teardown_accounts_for_every_handle
    (ctx : Context n β)
    {frame : Frame n}
    {outer : List (Frame n)}
    (hFrames : ctx.frames = frame :: outer) :
    ∃ report devices,
      frame.Settled ctx.config ctx.devices report devices ∧
        (finish.perform ctx).1 =
          (if ctx.config.leakPolicy = .fail ∧ report.HasLeaks then
            .error (.leaked report)
          else
            .ok report) ∧
        (dropScope.perform ctx).1 = .ok () ∧
        ∀ after,
          (after = (finish.perform ctx).2 ∨
              after = (dropScope.perform ctx).2) →
            after.config = ctx.config ∧
              after.frames = outer ∧
              after.devices = devices := by
  refine ⟨(frame.settle ctx.config ctx.devices).report,
    (frame.settle ctx.config ctx.devices).devices,
    frame.settled_settle ctx.config ctx.devices, ?_⟩
  rw [finish, ctx.perform_closeScope hFrames,
    ctx.perform_dropScope hFrames]
  refine ⟨rfl, rfl, ?_⟩
  rintro after (rfl | rfl)
  · exact ⟨rfl, rfl, rfl⟩
  · exact ⟨rfl, rfl, rfl⟩

/- A backend without releases leaves the qubit of a scope. -/
theorem stub_scope_is_accounted_for :
    let frame : Frame 1 :=
      { device := some 0
        tracker := some (Tracker.empty.trackQubit ⟨3⟩) }
    let config : RunConfig :=
      { RunConfig.standard with
        leakPolicy := .fail
        releaseOnTeardown := true }
    let stubs : Vector (Stub Float) 1 := #v[{ name := "stub" }]
    ∃ report devices,
      frame.Settled config stubs report devices ∧
        (finish.perform
            { config := config
              frames := [frame]
              devices := stubs
              notices := [] }).1 =
          if config.leakPolicy = .fail ∧ report.HasLeaks then
            .error (.leaked report)
          else
            .ok report := by
  intro frame config stubs
  rcases teardown_accounts_for_every_handle
      { config := config
        frames := [frame]
        devices := stubs
        notices := [] } rfl with
    ⟨report, devices, hSettled, hFinish, -, -⟩
  exact ⟨report, devices, hSettled, hFinish⟩

end Context

end QuantumRuntime

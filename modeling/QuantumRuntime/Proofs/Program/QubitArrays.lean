import QuantumRuntime.Proofs.Backend.Holdings
import QuantumRuntime.Proofs.Scope.Owed
import QuantumRuntime.Proofs.Scope.Runs

/-
  This file says what the allocation and the release of several
  qubits come to on any backend. An allocation is a run of
  requests that is either answered with qubits throughout or
  stops at the first refusal, after which the qubits that were
  issued are asked back. A release is a run that stops at the
  first refusal.

  Key definitions include:
    * `issuing`
    * `accepting`
    * `Tracker.trackQubits`
    * `Tracker.untrackQubits`
    * `Notice.notRolledBack`

  Key theorems include:
    * `issued_or_refused`
    * `Bookkeeping.releases_qubits`
    * `Allocation.perform_rollBack`
    * `Allocation.perform_allocateMore_of_issued`
    * `Allocation.perform_allocateMore_of_refused`
    * `Allocation.perform_releaseArray_of_refused`
    * `Allocation.history_allocateArray_of_refused`
    * `Allocation.history_releaseArray_of_refused`
-/

namespace QuantumRuntime

------------------------------------------------------------
-- Records of several qubits
------------------------------------------------------------

namespace Tracker

/- Record some qubits. -/
def trackQubits
    (qs : List QubitId)
    (tracker : Tracker) : Tracker :=
  qs.foldl (fun tracker q => tracker.trackQubit q) tracker

/- Forget some qubits. -/
def untrackQubits
    (qs : List QubitId)
    (tracker : Tracker) : Tracker :=
  qs.foldl (fun tracker q => tracker.untrackQubit q) tracker

@[simp] theorem trackQubits_nil :
    trackQubits [] = fun tracker => tracker :=
  rfl

@[simp] theorem trackQubits_cons
    (q : QubitId)
    (rest : List QubitId)
    (tracker : Tracker) :
    tracker.trackQubits (q :: rest) =
      (tracker.trackQubit q).trackQubits rest :=
  rfl

@[simp] theorem untrackQubits_nil :
    untrackQubits [] = fun tracker => tracker :=
  rfl

@[simp] theorem untrackQubits_cons
    (q : QubitId)
    (rest : List QubitId)
    (tracker : Tracker) :
    tracker.untrackQubits (q :: rest) =
      (tracker.untrackQubit q).untrackQubits rest :=
  rfl

theorem holds_trackQubits
    (qs : List QubitId)
    (tracker : Tracker)
    (handle : Handle) :
    (tracker.trackQubits qs).Holds handle ↔
      (∃ q ∈ qs, handle = .qubit q) ∨ tracker.Holds handle := by
  induction qs generalizing tracker with
  | nil => simp
  | cons q rest ih =>
      rw [trackQubits_cons, ih, holds_trackQubit, or_left_comm]
      simp only [List.mem_cons, exists_eq_or_imp, or_assoc]

theorem holds_untrackQubits
    (qs : List QubitId)
    (tracker : Tracker)
    (handle : Handle) :
    (tracker.untrackQubits qs).Holds handle ↔
      (∀ q ∈ qs, handle ≠ .qubit q) ∧ tracker.Holds handle := by
  induction qs generalizing tracker with
  | nil => simp
  | cons q rest ih =>
      rw [untrackQubits_cons, ih, holds_untrackQubit,
        List.forall_mem_cons, and_left_comm, and_assoc]

end Tracker

/- New qubits that are taken and given back make no difference. -/
theorem Handle.taken_and_given_back_iff
    {Held : Handle → Prop}
    {qs : List QubitId}
    (hNew : ∀ q ∈ qs, ¬ Held (.qubit q))
    (handle : Handle) :
    (∀ q ∈ qs, handle ≠ .qubit q) ∧
        ((∃ q ∈ qs, handle = .qubit q) ∨ Held handle) ↔
      Held handle := by
  constructor
  · rintro ⟨hOther, ⟨q, hMem, rfl⟩ | hBefore⟩
    · exact absurd rfl (hOther q hMem)
    · exact hBefore
  · intro hBefore
    refine ⟨?_, .inr hBefore⟩
    rintro q hMem rfl
    exact hNew q hMem hBefore

/- Qubits that are recorded and forgotten leave no trace. -/
theorem Tracker.untrackQubits_trackQubits
    {tracker : Tracker}
    {qs : List QubitId}
    (hNew : ∀ q ∈ qs, ¬ tracker.Holds (.qubit q)) :
    (tracker.trackQubits qs).untrackQubits qs = tracker := by
  apply Tracker.eq_of_holds
  intro handle
  rw [holds_untrackQubits, holds_trackQubits]
  exact Handle.taken_and_given_back_iff hNew handle

------------------------------------------------------------
-- Answers to allocations
------------------------------------------------------------

/- The answers to allocations that issue some qubits. -/
def issuing
    (qs : List QubitId) : List (Except BackendError Reply) :=
  qs.map fun q => .ok (.qubit q)

@[simp] theorem length_issuing
    (qs : List QubitId) :
    (issuing qs).length = qs.length :=
  List.length_map _

/- The exchanges that issue some qubits. -/
theorem zip_issuing
    {R : Type}
    (qs : List QubitId) :
    (List.replicate qs.length
        (Request.allocateQubit (R := R))).zip (issuing qs) =
      qs.map fun q => (.allocateQubit, .ok (.qubit q)) := by
  rw [← List.map_const', issuing, List.zip_map']

/- The record of a scope follows the qubits that are issued. -/
theorem Tracker.followAll_issuing
    {R : Type}
    (qs : List QubitId)
    (tracker : Tracker) :
    tracker.followAll (R := R)
        (qs.map fun q => (.allocateQubit, .ok (.qubit q))) =
      tracker.trackQubits qs := by
  induction qs generalizing tracker with
  | nil => rfl
  | cons q rest ih => exact ih (tracker.trackQubit q)

/- The answers to releases of some qubits that are all accepted. -/
def accepting
    (qs : List QubitId) : List (Except BackendError Reply) :=
  qs.map fun _ => .ok .done

theorem accepted_of_mem_accepting
    {qs : List QubitId}
    {answer : Except BackendError Reply}
    (hMem : answer ∈ accepting qs) :
    ∃ reply, answer = .ok reply := by
  rcases List.mem_map.mp hMem with ⟨q, -, rfl⟩
  exact ⟨.done, rfl⟩

/- The exchanges that give some qubits back. -/
theorem zip_accepting
    {R : Type}
    (qs : List QubitId) :
    (qs.map (Request.releaseQubit (R := R))).zip (accepting qs) =
      qs.map fun q => (.releaseQubit q, .ok .done) := by
  rw [accepting, List.zip_map']

/- The exchanges of a release that is refused in the end. -/
theorem zip_stopping
    {R : Type}
    (before : List QubitId)
    (q : QubitId)
    (e : BackendError) :
    ((before ++ [q]).map (Request.releaseQubit (R := R))).zip
        (accepting before ++ [.error e]) =
      (before.map fun q => (.releaseQubit q, .ok .done)) ++
        [(.releaseQubit q, .error e)] := by
  rw [List.map_append, List.zip_append (by simp [accepting]),
    zip_accepting]
  rfl

/- When all releases are accepted the record forgets all of them. -/
theorem Tracker.followAll_accepting
    {R : Type}
    (qs : List QubitId)
    (tracker : Tracker) :
    tracker.followAll (R := R)
        (qs.map fun q => (.releaseQubit q, .ok .done)) =
      tracker.untrackQubits qs := by
  induction qs generalizing tracker with
  | nil => rfl
  | cons q rest ih => exact ih (tracker.untrackQubit q)

section

variable {R : Type} [Scalar R] {n : Nat} {β : Type} [Backend R β]

/- A release that is accepted is answered with no more than that. -/
theorem reply_eq_done_of_releaseQubit
    {b : β}
    {q : QubitId}
    {reply : Reply}
    (hAccepted :
      ((Request.releaseQubit (R := R) q).run.perform b).1 =
        .ok reply) :
    reply = .done := by
  rw [Request.run, Action.perform_map] at hAccepted
  cases hPerform :
      ((Backend.releaseQubit (R := R) q).perform b).1 with
  | error e =>
      rw [hPerform] at hAccepted
      cases hAccepted
  | ok _ =>
      rw [hPerform] at hAccepted
      exact (Except.ok.inj hAccepted).symm

/- Releases that are all accepted are answered in one way. -/
theorem eq_accepting
    {b : β}
    {qs : List QubitId}
    (hAccepted :
      ∀ answer ∈ (runRequests b (qs.map .releaseQubit)).1,
        ∃ reply, answer = .ok reply) :
    (runRequests b (qs.map .releaseQubit)).1 = accepting qs := by
  induction qs generalizing b with
  | nil => rfl
  | cons q rest ih =>
      rw [List.map_cons, runRequests_cons] at hAccepted ⊢
      rcases List.forall_mem_cons.mp hAccepted with
        ⟨⟨reply, hFirst⟩, hOthers⟩
      cases reply_eq_done_of_releaseQubit hFirst
      rw [ih hOthers, hFirst]
      rfl

/-
  A backend that keeps account takes back distinct qubits that
  it holds, and holds the rest afterwards.
-/
theorem Bookkeeping.releases_qubits
    (book : Bookkeeping R β)
    {b : β}
    (hSound : book.Sound b)
    {qs : List QubitId}
    (hNodup : qs.Nodup)
    (hHolds : ∀ q ∈ qs, book.Holds b (.qubit q)) :
    let run := runRequests b (qs.map .releaseQubit)
    run.1 = accepting qs ∧
      ∀ handle,
        book.Holds run.2 handle ↔
          (∀ q ∈ qs, handle ≠ .qubit q) ∧ book.Holds b handle := by
  have hReleases :=
    book.releases hSound
      (hNodup.map fun _ _ hEq => Handle.qubit.inj hEq)
      (List.forall_mem_map.mpr hHolds)
  rw [List.map_map] at hReleases
  rcases hReleases with ⟨hAccepted, -, hAfter⟩
  refine ⟨eq_accepting hAccepted, fun handle => ?_⟩
  refine (hAfter handle).trans (and_congr_left fun _ => ?_)
  simp [@eq_comm _ handle]

/- An allocation that is accepted is answered with a qubit. -/
theorem exists_qubit_of_allocateQubit
    {b : β}
    {reply : Reply}
    (hAccepted :
      ((Request.allocateQubit (R := R)).run.perform b).1 =
        .ok reply) :
    ∃ q, reply = .qubit q := by
  rw [Request.run, Action.perform_map] at hAccepted
  cases hPerform : ((Backend.allocateQubit (R := R)).perform b).1 with
  | error e =>
      rw [hPerform] at hAccepted
      cases hAccepted
  | ok q =>
      rw [hPerform] at hAccepted
      exact ⟨q, (Except.ok.inj hAccepted).symm⟩

/-
  A backend that is asked for some qubits issues all of them,
  or some of them until it refuses the next one.
-/
theorem issued_or_refused
    (R : Type)
    [Scalar R]
    [Backend R β]
    (b : β)
    (count : Nat) :
    (∃ qs,
      qs.length = count ∧
        (runRequests b
            (List.replicate count .allocateQubit)).1 =
          issuing qs) ∨
      ∃ qs e remaining,
        count = qs.length + 1 + remaining ∧
          (runRequests b
              (List.replicate (qs.length + 1) .allocateQubit)).1 =
            issuing qs ++ [.error e] := by
  induction count generalizing b with
  | zero => exact .inl ⟨[], rfl, rfl⟩
  | succ count ih =>
      rcases hRun :
          (Request.allocateQubit (R := R)).run.perform b with
        ⟨e | reply, after⟩
      · refine .inr ⟨[], e, count, Nat.add_comm _ _, ?_⟩
        simp [hRun, issuing]
      · rcases exists_qubit_of_allocateQubit
            (congrArg Prod.fst hRun) with ⟨q, rfl⟩
        rcases ih after with
          ⟨qs, hLength, hIssued⟩ |
            ⟨qs, e, remaining, hCount, hRefused⟩
        · refine .inl ⟨q :: qs, by rw [List.length_cons, hLength], ?_⟩
          rw [List.replicate_succ, runRequests_cons, hRun, hIssued]
          rfl
        · refine .inr ⟨q :: qs, e, remaining, ?_, ?_⟩
          · rw [hCount, List.length_cons]
            omega
          · rw [List.length_cons, List.replicate_succ,
              runRequests_cons, hRun, hRefused]
            rfl

end

------------------------------------------------------------
-- Contexts after allocations and releases
------------------------------------------------------------

namespace Context

variable {R : Type} [Scalar R] {n : Nat} {β : Type} [Backend R β]
variable {ctx : Context n β} {device : Fin n}

/- Qubits that are taken back are recorded no more. -/
theorem ran_of_accepted_releases
    {qs : List QubitId}
    (hAccepted :
      (runRequests (ctx.devices.get device)
          (qs.map .releaseQubit)).1 =
        accepting qs) :
    let requests : List (Request R) := qs.map .releaseQubit
    ctx.ran device requests =
      (ctx.withDevice device
          (runRequests (ctx.devices.get device)
            requests).2).recorded
        (Tracker.untrackQubits qs) := by
  intro requests
  rw [ran, hAccepted, zip_accepting,
    funext (Tracker.followAll_accepting qs)]

/- A refusal in the end does not change that. -/
theorem ran_of_refused_release
    {before : List QubitId}
    {q : QubitId}
    {e : BackendError}
    (hRefused :
      (runRequests (ctx.devices.get device)
          ((before ++ [q]).map .releaseQubit)).1 =
        accepting before ++ [.error e]) :
    let requests : List (Request R) :=
      (before ++ [q]).map .releaseQubit
    ctx.ran device requests =
      (ctx.withDevice device
          (runRequests (ctx.devices.get device)
            requests).2).recorded
        (Tracker.untrackQubits before) := by
  intro requests
  have hFollow :
      ∀ tracker : Tracker,
        tracker.followAll (R := R)
            ((before.map fun q => (.releaseQubit q, .ok .done)) ++
              [(.releaseQubit q, .error e)]) =
          tracker.untrackQubits before := by
    intro tracker
    rw [Tracker.followAll_append, Tracker.followAll_accepting,
      Tracker.followAll_singleton, Tracker.follow_error]
  rw [ran, hRefused, zip_stopping, funext hFollow]

end Context

------------------------------------------------------------
-- Programs over arrays
------------------------------------------------------------

namespace Allocation

variable {R : Type} [Scalar R] {n : Nat} {β : Type} [Backend R β]
variable {ctx : Context n β} {device : Fin n}

/- An allocation answers with the qubits that are issued. -/
theorem perform_allocateMore_of_issued
    (hCurrent : ctx.currentDevice = .ok device)
    (allocated : List QubitId)
    {qs : List QubitId}
    (hIssued :
      (runRequests (ctx.devices.get device)
          (List.replicate qs.length .allocateQubit)).1 =
        issuing qs) :
    (allocateMore allocated qs.length).perform ctx =
      (.ok (allocated ++ qs),
        ctx.ran device
          (List.replicate qs.length .allocateQubit)) := by
  induction qs generalizing ctx allocated with
  | nil => simp [allocateMore]
  | cons q rest ih =>
      rw [List.length_cons, List.replicate_succ, runRequests_cons]
        at hIssued
      rcases List.cons.inj hIssued with ⟨hFirst, hRest⟩
      have hThere :
          (ctx.ran device
            [Request.allocateQubit (R := R)]).currentDevice =
              .ok device := by
        rw [Context.currentDevice_ran, hCurrent]
      rw [List.length_cons, allocateMore, Action.perform_bind,
        Action.perform_attempt,
        Context.perform_allocateQubit_of_ok hCurrent hFirst]
      dsimp only
      rw [ih hThere (allocated ++ [q])
          (by rw [Context.get_devices_ran]; exact hRest),
        List.append_assoc, List.replicate_succ,
        ctx.ran_cons device _ (List.replicate rest.length _)]
      rfl

/- A release goes on after the qubits that are accepted. -/
theorem perform_releaseArray_append
    (hCurrent : ctx.currentDevice = .ok device)
    {before : List QubitId}
    (hAccepted :
      (runRequests (ctx.devices.get device)
          (before.map .releaseQubit)).1 =
        accepting before)
    (rest : List QubitId) :
    (releaseArray (before ++ rest)).perform ctx =
      (releaseArray rest).perform
        (ctx.ran device (before.map .releaseQubit)) := by
  induction before generalizing ctx with
  | nil => simp
  | cons q before ih =>
      rw [List.map_cons, runRequests_cons] at hAccepted
      rcases List.cons.inj hAccepted with ⟨hFirst, hOthers⟩
      have hThere :
          (ctx.ran device
            [Request.releaseQubit (R := R) q]).currentDevice =
              .ok device := by
        rw [Context.currentDevice_ran, hCurrent]
      rw [List.cons_append, releaseArray, Action.perform_bind,
        Context.perform_unit_of_put_ok rfl hCurrent hFirst,
        List.map_cons, ctx.ran_cons device _ (before.map _)]
      exact ih hThere (by rw [Context.get_devices_ran]; exact hOthers)

/- A release succeeds when every qubit is accepted. -/
theorem perform_releaseArray_of_accepted
    (hCurrent : ctx.currentDevice = .ok device)
    {qs : List QubitId}
    (hAccepted :
      (runRequests (ctx.devices.get device)
          (qs.map .releaseQubit)).1 =
        accepting qs) :
    (releaseArray qs).perform ctx =
      (.ok (), ctx.ran device (qs.map .releaseQubit)) := by
  have hPerform := perform_releaseArray_append hCurrent hAccepted []
  rwa [List.append_nil] at hPerform

/- A release stops at the first qubit that is refused. -/
theorem perform_releaseArray_of_refused
    (hCurrent : ctx.currentDevice = .ok device)
    {before : List QubitId}
    {q : QubitId}
    {e : BackendError}
    (hRefused :
      (runRequests (ctx.devices.get device)
          ((before ++ [q]).map .releaseQubit)).1 =
        accepting before ++ [.error e])
    (rest : List QubitId) :
    (releaseArray (before ++ q :: rest)).perform ctx =
      (.error (.backend e),
        ctx.ran device
          ((before ++ [q]).map .releaseQubit)) := by
  rw [List.map_append, runRequests_append] at hRefused
  rcases List.append_inj hRefused (by simp [accepting]) with
    ⟨hAccepted, hLast⟩
  have hThere :
      (ctx.ran device
        (before.map
          (Request.releaseQubit (R := R)))).currentDevice =
        .ok device := by
    rw [Context.currentDevice_ran, hCurrent]
  have hAnswer :
      ((Request.releaseQubit (R := R) q).run.perform
        ((ctx.ran device
          (before.map .releaseQubit)).devices.get device)).1 =
        .error e := by
    rw [Context.get_devices_ran]
    exact (List.cons.inj hLast).1
  rw [perform_releaseArray_append hCurrent hAccepted, releaseArray,
    Action.perform_bind,
    Context.perform_of_put_error rfl hThere hAnswer,
    List.map_append, Context.ran_append]
  rfl

------------------------------------------------------------
-- Histories
------------------------------------------------------------

omit [Scalar R] in
/- Neither are releases. -/
theorem not_isQuery_of_mem_releases
    {qs : List QubitId}
    {request : Request R}
    (hMem : request ∈ qs.map .releaseQubit) :
    ¬ request.IsQuery := by
  rcases List.mem_map.mp hMem with ⟨q, -, rfl⟩
  exact not_false

/- A release of several qubits is a run of releases. -/
theorem history_releaseArray_of_accepted
    (hCurrent : ctx.currentDevice = .ok device)
    {qs : List QubitId}
    (hAccepted :
      (runRequests (ctx.devices.get device)
          (qs.map .releaseQubit)).1 =
        accepting qs) :
    Routine.history (R := R) (fun _ => releaseArray qs) ctx device =
      qs.map fun q => (.releaseQubit q, .ok .done) := by
  rw [← zip_accepting, ← hAccepted]
  apply Routine.history_eq_zip
  · exact fun _ hMem => not_isQuery_of_mem_releases hMem
  · rw [perform_releaseArray_of_accepted]
    · exact hCurrent
    · rw [Context.get_devices_mapDevices,
        Recorded.runRequests_start, hAccepted]

/- The refusal that it stops at is the last exchange. -/
theorem history_releaseArray_of_refused
    (hCurrent : ctx.currentDevice = .ok device)
    {before : List QubitId}
    {q : QubitId}
    {e : BackendError}
    (hRefused :
      (runRequests (ctx.devices.get device)
          ((before ++ [q]).map .releaseQubit)).1 =
        accepting before ++ [.error e])
    (rest : List QubitId) :
    Routine.history (R := R)
        (fun _ => releaseArray (before ++ q :: rest)) ctx device =
      (before.map fun q => (.releaseQubit q, .ok .done)) ++
        [(.releaseQubit q, .error e)] := by
  rw [← zip_stopping, ← hRefused]
  apply Routine.history_eq_zip
  · exact fun _ hMem => not_isQuery_of_mem_releases hMem
  · have hThere :
        (ctx.mapDevices
          (Recorded.start (R := R))).currentDevice = .ok device :=
      hCurrent
    rw [perform_releaseArray_of_refused hThere]
    rw [Context.get_devices_mapDevices, Recorded.runRequests_start]
    exact hRefused

end Allocation

end QuantumRuntime

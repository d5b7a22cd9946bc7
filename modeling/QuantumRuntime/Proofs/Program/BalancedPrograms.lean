import QuantumRuntime.Program.Intrinsics
import QuantumRuntime.Proofs.Scope.Runs
import QuantumRuntime.Proofs.Simulator.QubitResets

/-
  This file describes programs that give back what they take.
  Such a program succeeds and comes down to a run of requests
  after which the backend holds what it held before and a record
  of what is live is as it was. Programs of this kind can be put
  together one after the other, and read-outs, resets and gates
  are among them.

  Key definitions include:
    * `Mount`
    * `Mount.Balanced`
    * `Mount.Establishes`
    * `GateCall.program`

  Key theorems include:
    * `Mount.Balanced.bind`
    * `Mount.Balanced.of_readOut`
    * `Mount.Balanced.exists_measureBit`
    * `Mount.Balanced.exists_reset`
    * `Mount.Establishes.bind`
-/

namespace QuantumRuntime

variable {R : Type} [Scalar R] {n : Nat} {β α γ : Type}
variable [Backend R β]

------------------------------------------------------------
-- Exchanges of a run
------------------------------------------------------------

/- What is exchanged when some requests are put to a backend. -/
def exchangesOf
    (b : β)
    (requests : List (Request R)) : List (Exchange R) :=
  requests.zip (runRequests b requests).1

theorem exchangesOf_append
    (b : β)
    (first second : List (Request R)) :
    exchangesOf b (first ++ second) =
      exchangesOf b first ++
        exchangesOf (runRequests b first).2 second := by
  rw [exchangesOf, runRequests_append]
  exact List.zip_append (length_runRequests b first).symm

------------------------------------------------------------
-- Gate calls as programs
------------------------------------------------------------

/- The call as a program for the current backend. -/
def GateCall.program : GateCall R → Program n β Unit
  | plain g target => Context.apply g target
  | controlled g controls target =>
      Context.applyControlled g controls target

theorem GateCall.put_request
    (call : GateCall R) :
    (Context.put call.request : Program n β Reply) =
      (fun _ => Reply.done) <$> call.program := by
  cases call <;> rfl

omit [Scalar R] in
/- A gate call creates and ends no handle. -/
theorem GateCall.keepsHandles
    (call : GateCall R) :
    call.request.KeepsHandles := by
  cases call <;> trivial

omit [Scalar R] in
/- No record follows a gate call. -/
theorem GateCall.follow_eq
    (call : GateCall R)
    (answer : Except BackendError Reply)
    (tracker : Tracker) :
    tracker.follow (call.request, answer) = tracker := by
  cases call <;> cases answer <;> rfl

/- A request that keeps handles changes no holdings. -/
theorem Builtin.Reachable.holds_of_keepsHandles
    {b after : Builtin R}
    (hReachable : b.Reachable)
    {request : Request R}
    (hKeeps : request.KeepsHandles)
    {answer : Except BackendError Reply}
    (hRun : request.run.perform b = (answer, after))
    (handle : Handle) :
    after.Holds handle ↔ b.Holds handle := by
  have hStep :=
    bookkeeping.holds_run_iff hReachable.sound request handle
  rw [hRun] at hStep
  rw [← holds_bookkeeping_iff, ← holds_bookkeeping_iff]
  simpa only [Exchange.not_creates_of_keepsHandles hKeeps,
    Exchange.not_ends_of_keepsHandles hKeeps, and_false,
    false_or, not_false_eq_true, true_and] using hStep

------------------------------------------------------------
-- Read-outs as programs
------------------------------------------------------------

namespace Intrinsic

/-
  Measure a qubit, ask something about the result and release
  the result.
-/
def readingOut
    (q : QubitId)
    (ask : ResultId → Program n β α) : Program n β α := do
  let r ← Context.measure [.z] [q]
  let a ← ask r
  Context.releaseResult r
  pure a

theorem measureBit_eq
    (q : QubitId) :
    (measureBit q : Program n β Bool) =
      readingOut q fun r =>
        Context.oneResult >>= Context.areEqualResults r := by
  simp only [readingOut, bind_assoc]
  rfl

theorem reset_eq
    (q : QubitId) :
    (reset q : Program n β Unit) =
      readingOut q Context.resultValue >>= fun isOne =>
        if isOne then Context.apply .x q else pure () := by
  simp only [readingOut, bind_assoc, pure_bind]
  rfl

end Intrinsic

/- A read-out is answered with its result and with no more. -/
theorem ReadOut.runRequests_eq
    {q : QubitId}
    {r : ResultId}
    {b measured after : β}
    (hReadOut : ReadOut R q r b measured after) :
    runRequests b (Request.readOut (R := R) q r) =
      ([.ok (.result r), .ok .done], after) := by
  rw [Request.readOut, runRequests_cons, hReadOut.measure_eq,
    runRequests_cons, hReadOut.release_eq]
  rfl

------------------------------------------------------------
-- Mounted backends
------------------------------------------------------------

/- A built-in backend among the backends of a context. -/
structure Mount
    (R : Type)
    [Scalar R]
    (n : Nat)
    (β : Type)
    [Backend R β] where
  device : Fin n
  embed : Builtin R → β
  morphism : Backend.Morphism embed

namespace Mount

variable (mount : Mount R n β)

/- The mounted backend is the current one and is in some state. -/
structure Shows
    (b : Builtin R)
    (ctx : Context n β) : Prop where
  current_eq : ctx.currentDevice = .ok mount.device
  backend_eq : ctx.devices.get mount.device = mount.embed b

variable {mount}
variable {b there after : Builtin R} {ctx : Context n β}

/- A run of requests goes on in the mounted backend. -/
theorem Shows.ran
    (hShows : mount.Shows b ctx)
    (requests : List (Request R)) :
    mount.Shows (runRequests b requests).2
      (ctx.ran mount.device requests) where
  current_eq := by
    rw [Context.currentDevice_ran, hShows.current_eq]
  backend_eq := by
    rw [Context.get_devices_ran, hShows.backend_eq,
      mount.morphism.runRequests_eq]

/- The context records the exchanges of the mounted backend. -/
theorem Shows.ran_eq
    (hShows : mount.Shows b ctx)
    (requests : List (Request R)) :
    ctx.ran mount.device requests =
      (ctx.withDevice mount.device
          (mount.embed (runRequests b requests).2)).recorded
        (Tracker.followAll (exchangesOf b requests)) := by
  rw [Context.ran, hShows.backend_eq,
    mount.morphism.runRequests_eq]
  rfl

/- A gate call that is taken succeeds. -/
theorem Shows.perform_gate
    (hShows : mount.Shows b ctx)
    {call : GateCall R}
    (hRun : call.request.run.perform b = (.ok .done, after)) :
    call.program.perform ctx =
      (.ok (), ctx.ran mount.device [call.request]) := by
  apply Context.perform_unit_of_put_ok call.put_request
    hShows.current_eq
  rw [hShows.backend_eq, mount.morphism.run_eq, hRun]

------------------------------------------------------------
-- Balanced programs
------------------------------------------------------------

variable (mount)

/-
  Wherever a backend is mounted in one state, a program answers
  and comes down to some requests that bring it to another. The
  backend holds then what it held before, and a record that
  lists nothing but live handles is the same as before.
-/
structure Balanced
    (program : Program n β α)
    (b : Builtin R)
    (a : α)
    (requests : List (Request R))
    (after : Builtin R) : Prop where
  perform_eq :
    ∀ ctx,
      mount.Shows b ctx →
        program.perform ctx =
          (.ok a, ctx.ran mount.device requests)
  run_eq :
    (runRequests b requests).2 = after
  holds_iff :
    ∀ handle, after.Holds handle ↔ b.Holds handle
  follow_eq :
    ∀ tracker : Tracker,
      (∀ handle, tracker.Holds handle → b.Holds handle) →
        tracker.followAll (exchangesOf b requests) = tracker

variable {mount}

namespace Balanced

variable {program : Program n β α} {next : α → Program n β γ}
variable {a : α} {c : γ} {requests later : List (Request R)}

/- The mounted backend is found in the later state. -/
theorem shows_ran
    (hBalanced : mount.Balanced program b a requests after)
    (hShows : mount.Shows b ctx) :
    mount.Shows after (ctx.ran mount.device requests) := by
  rw [← hBalanced.run_eq]
  exact hShows.ran requests

theorem reachable
    (hBalanced : mount.Balanced program b a requests after)
    (hReachable : b.Reachable) :
    after.Reachable := by
  rw [← hBalanced.run_eq]
  exact hReachable.run requests

/- A program that does nothing is balanced. -/
theorem pure
    (a : α)
    (b : Builtin R) :
    mount.Balanced (Pure.pure a) b a [] b where
  perform_eq ctx _ := by
    rw [Context.ran_nil]
    rfl
  run_eq := rfl
  holds_iff _ := Iff.rfl
  follow_eq _ _ := rfl

/- So are two balanced programs one after the other. -/
theorem bind
    (hFirst : mount.Balanced program b a requests there)
    (hNext : mount.Balanced (next a) there c later after) :
    mount.Balanced (program >>= next) b c (requests ++ later)
      after where
  perform_eq ctx hShows := by
    rw [Action.perform_bind, hFirst.perform_eq ctx hShows]
    dsimp only
    rw [hNext.perform_eq _ (hFirst.shows_ran hShows),
      Context.ran_append]
  run_eq := by
    rw [runRequests_append, hFirst.run_eq, hNext.run_eq]
  holds_iff handle :=
    (hNext.holds_iff handle).trans (hFirst.holds_iff handle)
  follow_eq tracker hLive := by
    rw [exchangesOf_append, Tracker.followAll_append,
      hFirst.follow_eq tracker hLive, hFirst.run_eq]
    exact hNext.follow_eq tracker fun handle hTracked =>
      (hFirst.holds_iff handle).mpr (hLive handle hTracked)

/- A gate call that is taken is balanced. -/
theorem of_gate
    (hReachable : b.Reachable)
    {call : GateCall R}
    (hRun : call.request.run.perform b = (.ok .done, after)) :
    mount.Balanced call.program b () [call.request] after where
  perform_eq ctx hShows := hShows.perform_gate hRun
  run_eq := by rw [runRequests_cons, hRun, runRequests_nil]
  holds_iff := hReachable.holds_of_keepsHandles call.keepsHandles hRun
  follow_eq tracker _ := call.follow_eq _ tracker

end Balanced

------------------------------------------------------------
-- Read-outs
------------------------------------------------------------

variable {q : QubitId} {r : ResultId} {bit : Bool}
variable {measured : Builtin R} {ask : ResultId → Program n β α}

/- A measured backend is shown in its new state. -/
theorem Shows.ran_measure
    (hShows : mount.Shows b ctx)
    (hReadOut : ReadOut R q r b measured after) :
    mount.Shows measured
      (ctx.ran mount.device [Request.measure [.z] [q]]) := by
  have hThere := hShows.ran [Request.measure [.z] [q]]
  rwa [runRequests_cons, hReadOut.measure_eq, runRequests_nil]
    at hThere

/- A question that is answered in between changes nothing. -/
theorem Shows.perform_readingOut
    (hShows : mount.Shows b ctx)
    (hReadOut : ReadOut R q r b measured after)
    {a : α}
    (hAsk :
      ∀ ctx, mount.Shows measured ctx →
        (ask r).perform ctx = (.ok a, ctx)) :
    (Intrinsic.readingOut q ask).perform ctx =
      (.ok a,
        ctx.ran mount.device (Request.readOut (R := R) q r)) := by
  let there :=
    ctx.ran mount.device [Request.measure (R := R) [.z] [q]]
  have hThere : mount.Shows measured there :=
    hShows.ran_measure hReadOut
  have hMeasure :
      (Context.measure [.z] [q]).perform ctx = (.ok r, there) := by
    apply Context.perform_of_put_ok rfl
      (fun _ _ hEq => Reply.result.inj hEq) hShows.current_eq
    rw [hShows.backend_eq, mount.morphism.run_eq,
      hReadOut.measure_eq]
  have hRelease :
      (Context.releaseResult r).perform there =
        (.ok (),
          there.ran mount.device
            [Request.releaseResult (R := R) r]) := by
    apply Context.perform_unit_of_put_ok rfl hThere.current_eq
    rw [hThere.backend_eq, mount.morphism.run_eq,
      hReadOut.release_eq]
  rw [Intrinsic.readingOut, Action.perform_bind, hMeasure]
  dsimp only
  rw [Action.perform_bind, hAsk there hThere]
  dsimp only
  rw [Action.perform_bind, hRelease, Request.readOut,
    ctx.ran_cons]
  rfl

namespace Balanced

/- A read-out is balanced. -/
theorem of_readOut
    (hReachable : b.Reachable)
    (hReadOut : ReadOut R q r b measured after)
    {a : α}
    (hAsk :
      ∀ ctx, mount.Shows measured ctx →
        (ask r).perform ctx = (.ok a, ctx)) :
    mount.Balanced (Intrinsic.readingOut q ask) b a
      (Request.readOut q r) after where
  perform_eq ctx hShows :=
    hShows.perform_readingOut hReadOut hAsk
  run_eq := by rw [hReadOut.runRequests_eq]
  holds_iff handle := by
    rw [← Builtin.holds_bookkeeping_iff,
      ← Builtin.holds_bookkeeping_iff]
    exact hReadOut.holds_iff hReachable.sound handle
  follow_eq tracker hLive := by
    have hNew : ¬ tracker.Holds (.result r) := by
      intro hTracked
      refine hReadOut.not_holds hReachable.sound ?_
      exact (Builtin.holds_bookkeeping_iff b _).mpr
        (hLive _ hTracked)
    rw [exchangesOf, hReadOut.runRequests_eq]
    exact Tracker.followAll_readOut hNew

/- A live qubit can be measured. -/
theorem exists_measureBit
    (mount : Mount R n β)
    (hReachable : b.Reachable)
    (hLive : b.Holds (.qubit q)) :
    ∃ bit requests after,
      mount.Balanced (Intrinsic.measureBit q) b bit requests
          after ∧
        Builtin.AfterReadOut q b bit after := by
  rcases hReachable.exists_readOut hLive with
    ⟨r, bit, measured, after, hReadOut, hMeasured, hOutcome,
      hAfter⟩
  have hOne : Backend.oneResult measured = ResultId.ofBool true := by
    cases measured <;> rfl
  have hEqual :
      Backend.areEqualResults measured r
          (Backend.oneResult measured) =
        .ok bit := by
    rw [hOne, Builtin.areEqualResults_eq hMeasured
      (hReadOut.sound_measured hReachable.sound) hOutcome
      (outcomeOf_ofBool _ true)]
    simp
  have hRead :
      mount.Balanced
        (Intrinsic.readingOut q fun r =>
          Context.oneResult >>= Context.areEqualResults r)
        b bit (Request.readOut q r) after := by
    apply of_readOut hReachable hReadOut
    intro ctx hShows
    rw [Action.perform_bind, Context.oneResult,
      Context.perform_askBackend, hShows.current_eq]
    have hAnswer :
        ((Request.areEqualResults (R := R) r
            (Backend.oneResult measured)).run.perform
          (ctx.devices.get mount.device)).1 = .ok (.bit bit) := by
      rw [hShows.backend_eq, mount.morphism.run_eq, Request.run,
        Action.perform_map, Action.perform_query, hEqual]
      rfl
    have hAsk :
        (Context.areEqualResults r
            (Backend.oneResult measured)).perform ctx =
          (.ok bit, ctx) :=
      Context.perform_query rfl
        (fun _ _ hEq => Reply.bit.inj hEq) hShows.current_eq
        hAnswer trivial
    rw [← mount.morphism.oneResult_eq, ← hShows.backend_eq]
      at hAsk
    exact hAsk
  rw [Intrinsic.measureBit_eq]
  exact ⟨bit, _, after, hRead, hAfter⟩

/- A live qubit can be reset. -/
theorem exists_reset
    (mount : Mount R n β)
    (hReachable : b.Reachable)
    (hLive : b.Holds (.qubit q)) :
    ∃ requests after,
      mount.Balanced (Intrinsic.reset q) b () requests after ∧
        b.ResetTo q after := by
  rcases Builtin.exists_reset hReachable hLive with
    ⟨r, bit, measured, after, last, hReadOut, hValue, hSettles,
      hReset, -⟩
  have hRead :
      mount.Balanced
        (Intrinsic.readingOut q Context.resultValue) b bit
        (Request.readOut q r) after := by
    apply of_readOut hReachable hReadOut
    intro ctx hShows
    have hAnswer :
        ((Request.resultValue (R := R) r).run.perform
          (ctx.devices.get mount.device)).1 = .ok (.bit bit) := by
      rw [hShows.backend_eq, mount.morphism.run_eq, hValue]
    exact Context.perform_query rfl
      (fun _ _ hEq => Reply.bit.inj hEq) hShows.current_eq hAnswer
      trivial
  rw [Intrinsic.reset_eq]
  cases bit with
  | false =>
      cases hSettles.of_zero rfl
      exact ⟨_, after, hRead.bind (.pure () after), hReset⟩
  | true =>
      have hFlip :
          mount.Balanced (GateCall.plain .x q).program after ()
            [(GateCall.plain .x q).request] last :=
        .of_gate (hRead.reachable hReachable) (hSettles.of_one rfl)
      exact ⟨_, last, hRead.bind hFlip, hReset⟩

end Balanced

------------------------------------------------------------
-- Properties that programs establish
------------------------------------------------------------

variable (mount)

/-
  From every reachable state with some property a program is
  balanced, and its answer and the state that it leaves have
  another.
-/
def Establishes
    (Before : Builtin R → Prop)
    (program : Program n β α)
    (After : α → Builtin R → Prop) : Prop :=
  ∀ b, b.Reachable → Before b →
    ∃ a requests after,
      mount.Balanced program b a requests after ∧ After a after

variable {mount}

namespace Establishes

variable {Before Before' : Builtin R → Prop}
variable {After After' : α → Builtin R → Prop}
variable {Last : γ → Builtin R → Prop}
variable {program : Program n β α} {next : α → Program n β γ}

theorem pure
    {a : α}
    (hHere : ∀ b, Before b → After a b) :
    mount.Establishes Before (Pure.pure a) After :=
  fun b _ hBefore => ⟨a, [], b, .pure a b, hHere b hBefore⟩

/- What the first program establishes the second starts from. -/
theorem bind
    (hFirst : mount.Establishes Before program After)
    (hNext : ∀ a, mount.Establishes (After a) (next a) Last) :
    mount.Establishes Before (program >>= next) Last := by
  intro b hReachable hBefore
  rcases hFirst b hReachable hBefore with
    ⟨a, requests, there, hBalanced, hThere⟩
  rcases hNext a there (hBalanced.reachable hReachable) hThere with
    ⟨c, later, after, hRest, hLast⟩
  exact ⟨c, requests ++ later, after, hBalanced.bind hRest, hLast⟩

/- Less may be established from more. -/
theorem mono
    (hProgram : mount.Establishes Before program After)
    (hBefore : ∀ b, Before' b → Before b)
    (hAfter : ∀ a b, After a b → After' a b) :
    mount.Establishes Before' program After' := by
  intro b hReachable hHere
  rcases hProgram b hReachable (hBefore b hHere) with
    ⟨a, requests, after, hBalanced, hThere⟩
  exact ⟨a, requests, after, hBalanced, hAfter a after hThere⟩

end Establishes

end Mount

end QuantumRuntime

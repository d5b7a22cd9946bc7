import QuantumRuntime.Proofs.Scope.Teardown
import QuantumRuntime.Program.Script
import Mathlib.Data.Set.Insert

/-
  This file says which programs run through the operations of a
  context. A routine is a program for backends of every type,
  and a composed routine is put together from requests to the
  innermost scope, from questions about the run, and from
  further scopes on backends that no open scope holds. All
  instructions are composed.

  Key definitions include:
    * `Access`
    * `Routine`
    * `Context.within`
    * `Context.answer`
    * `Routine.Composed`

  Key theorems include:
    * `Context.perform_within`
    * `Routine.Composed.instruction`
    * `Routine.Composed.runProgram`
-/

namespace QuantumRuntime

------------------------------------------------------------
-- Scopes with a body
------------------------------------------------------------

namespace Frame

variable {n : Nat}

/- The frame of a scope that has just been opened. -/
def fresh
    (device : Option (Fin n))
    (track : Bool) : Frame n :=
  { device := device
    tracker := if track then some Tracker.empty else none }

end Frame

/- What a program learns from the end of a scope. -/
def Ending.answer
    (ending : Ending)
    (closing : Except ProgramError LeakReport) :
    Option (Except ProgramError LeakReport) :=
  match ending with
  | finish => some closing
  | drop => none

namespace Context

variable {n : Nat} {β α R : Type} [Scalar R] [Backend R β]

/- The context in which a scope has just been opened. -/
def opened
    (device : Option (Fin n))
    (track : Bool)
    (ctx : Context n β) : Context n β :=
  { ctx with frames := Frame.fresh device track :: ctx.frames }

@[simp] theorem perform_openScope
    (device : Option (Fin n))
    (track : Bool)
    (ctx : Context n β) :
    (openScope device track).perform ctx =
      (.ok (), ctx.opened device track) :=
  rfl

/- End the innermost scope in one of the two ways. -/
def endScope : Ending →
    Program n β (Option (Except ProgramError LeakReport))
  | .finish => some <$> (finish (n := n) (β := β)).attempt
  | .drop => (fun _ => none) <$> dropScope

/-
  Run a body in a scope of its own. The scope ends even if the
  body fails, in a way that may depend on how the body went.
-/
def within
    (device : Option (Fin n))
    (track : Bool)
    (body : Program n β α)
    (ending : Except ProgramError α → Ending) :
    Program n β
      (Except ProgramError α ×
        Option (Except ProgramError LeakReport)) := do
  openScope device track
  let outcome ← body.attempt
  let closing ← endScope (ending outcome)
  pure (outcome, closing)

/- The context after its innermost frame has ended. -/
def ended
    (ending : Ending)
    (frame : Frame n)
    (outer : List (Frame n))
    (ctx : Context n β) : Context n β :=
  match ending with
  | .finish => ctx.closed frame outer
  | .drop =>
      (ctx.closed frame outer).withNotices
        (ctx.config.leakPolicy.dropNotices
          (frame.settle ctx.config ctx.devices).report)

@[simp] theorem config_ended
    (ending : Ending)
    (frame : Frame n)
    (outer : List (Frame n))
    (ctx : Context n β) :
    (ctx.ended ending frame outer).config = ctx.config := by
  cases ending <;> rfl

@[simp] theorem frames_ended
    (ending : Ending)
    (frame : Frame n)
    (outer : List (Frame n))
    (ctx : Context n β) :
    (ctx.ended ending frame outer).frames = outer := by
  cases ending <;> rfl

@[simp] theorem devices_ended
    (ending : Ending)
    (frame : Frame n)
    (outer : List (Frame n))
    (ctx : Context n β) :
    (ctx.ended ending frame outer).devices =
      (frame.settle ctx.config ctx.devices).devices := by
  cases ending <;> rfl

theorem perform_endScope
    (ending : Ending)
    {frame : Frame n}
    {outer : List (Frame n)}
    (ctx : Context n β)
    (hFrames : ctx.frames = frame :: outer) :
    (endScope ending).perform ctx =
      (.ok
        (ending.answer
          (ctx.config.leakPolicy.verdict
            (frame.settle ctx.config ctx.devices).report)),
        ctx.ended ending frame outer) := by
  cases ending with
  | finish =>
      rw [endScope, finish, Action.perform_map,
        Action.perform_attempt, ctx.perform_closeScope hFrames]
      rfl
  | drop =>
      rw [endScope, Action.perform_map,
        ctx.perform_dropScope hFrames]
      rfl

/-
  What a program answers when its scope has finished, from its
  own outcome and from that of the scope.
-/
def answer :
    Except ProgramError α →
      Except ProgramError LeakReport →
        Program n β (α × LeakReport)
  | .ok value, .ok report => pure (value, report)
  | .ok _, .error leak => throw leak
  | .error e, .ok _ => throw e
  | .error e, .error leak => do
      note (.failedAndLeaked leak)
      throw e

theorem concludeProgram_eq
    (outcome : Except ProgramError α) :
    (concludeProgram outcome : Program n β (α × LeakReport)) =
      finish.attempt >>= answer outcome := by
  apply Action.eq_of_perform
  intro ctx
  simp only [concludeProgram, Action.perform_bind,
    Action.perform_attempt]
  rcases outcome with e | value <;>
    rcases finish.perform ctx with ⟨leak | report, after⟩ <;>
    rfl

/-
  A body runs in the opened scope, and the frame that it leaves
  is the one that ends.
-/
theorem perform_within
    (device : Option (Fin n))
    (track : Bool)
    (body : Program n β α)
    (ending : Except ProgramError α → Ending)
    {frame : Frame n}
    {outer : List (Frame n)}
    (ctx : Context n β)
    (hFrames :
      (body.perform (ctx.opened device track)).2.frames =
        frame :: outer) :
    let run := body.perform (ctx.opened device track)
    (within device track body ending).perform ctx =
      (.ok
        (run.1,
          (ending run.1).answer
            (run.2.config.leakPolicy.verdict
              (frame.settle run.2.config run.2.devices).report)),
        run.2.ended (ending run.1) frame outer) := by
  simp only [within, Action.perform_bind, perform_openScope,
    Action.perform_attempt, perform_endScope _ _ hFrames,
    Action.perform_pure]

end Context

------------------------------------------------------------
-- Routines
------------------------------------------------------------

/-
  How a program reaches the backend of the innermost scope:
  through operations that the record of the scope follows, or
  directly as well.
-/
inductive Access where
  | recorded
  | direct
deriving DecidableEq, Repr

/- A program that can be run on backends of every type. -/
abbrev Routine (R : Type) [Scalar R] (n : Nat) (α : Type) :=
  (β : Type) → [Backend R β] → Program n β α

namespace Routine

variable {R : Type} [Scalar R] {n : Nat}

/-
  The routines that reach backends only through the operations
  of a context, while some backends are taken by open scopes.
  A further scope may hold any backend but those. With direct
  access a routine may also put requests to the backend of the
  innermost scope that the record of the scope does not follow.
-/
inductive Composed
    (access : Access) :
    Set (Fin n) → {α : Type} → Routine R n α → Prop where
  | put
      {taken : Set (Fin n)}
      (request : Request R) :
      Composed access taken fun _ => Context.put request
  | bypass
      {taken : Set (Fin n)}
      (hDirect : access = .direct)
      (request : Request R) :
      Composed access taken fun _ => Context.onBackend request.run
  | ask
      {taken : Set (Fin n)}
      {α : Type}
      (answer : String → ResultId → ResultId → α) :
      Composed access taken fun _ =>
        Context.askBackend fun b =>
          .ok (answer (Backend.name b) (Backend.zeroResult b)
            (Backend.oneResult b))
  | view
      {taken : Set (Fin n)}
      {α : Type}
      (look : RunConfig → Nat → Except ProgramError α) :
      Composed access taken fun _ =>
        Action.query fun ctx => look ctx.config ctx.depth
  | note
      {taken : Set (Fin n)}
      (notice : Notice) :
      Composed access taken fun _ => Context.note notice
  | bind
      {taken : Set (Fin n)}
      {α γ : Type}
      {first : Routine R n α}
      {next : α → Routine R n γ}
      (hFirst : Composed access taken first)
      (hNext : ∀ a, Composed access taken (next a)) :
      Composed access taken fun β => first β >>= fun a => next a β
  | attempt
      {taken : Set (Fin n)}
      {α : Type}
      {body : Routine R n α}
      (hBody : Composed access taken body) :
      Composed access taken fun β => (body β).attempt
  | within
      {taken : Set (Fin n)}
      {α : Type}
      {device : Option (Fin n)}
      (track : Bool)
      {body : Routine R n α}
      (ending : Except ProgramError α → Ending)
      (hFree : ∀ d ∈ taken, device ≠ some d)
      (hBody : Composed access (taken ∪ {d | device = some d}) body) :
      Composed access taken fun β =>
        Context.within device track (body β) ending

namespace Composed

variable {access : Access} {taken : Set (Fin n)} {α γ : Type}

------------------------------------------------------------
-- Ways to compose
------------------------------------------------------------

/- What may be done while more is taken may be done anyway. -/
theorem antitone
    {fewer : Set (Fin n)}
    {routine : Routine R n α}
    (hComposed : Composed access taken routine)
    (hSubset : fewer ⊆ taken) :
    Composed access fewer routine := by
  induction hComposed generalizing fewer with
  | put request => exact .put request
  | bypass hDirect request => exact .bypass hDirect request
  | ask answer => exact .ask answer
  | view look => exact .view look
  | note notice => exact .note notice
  | bind hFirst hNext ihFirst ihNext =>
      exact .bind (ihFirst hSubset) fun a => ihNext a hSubset
  | attempt hBody ih => exact .attempt (ih hSubset)
  | within track ending hFree hBody ih =>
      exact .within track ending
        (fun d hTaken => hFree d (hSubset hTaken))
        (ih (Set.union_subset_union_left _ hSubset))

theorem pure
    (a : α) :
    Composed (R := R) access taken fun _ => Pure.pure a :=
  .view fun _ _ => .ok a

theorem throw
    (e : ProgramError) :
    Composed (R := R) (α := α) access taken fun _ =>
      MonadExcept.throw e :=
  .view fun _ _ => .error e

theorem map
    {routine : Routine R n α}
    (hRoutine : Composed access taken routine)
    (f : α → γ) :
    Composed access taken fun β => f <$> routine β := by
  have hBind :
      (fun β [Backend R β] => f <$> routine β) =
        fun β [Backend R β] =>
          routine β >>= fun a => Pure.pure (f a) := by
    funext β _
    exact (bind_pure_comp f (routine β)).symm
  rw [hBind]
  exact .bind hRoutine fun a => .pure (f a)

/- An answer can be taken out of a reply that contains it. -/
theorem of_reply
    {routine : Routine R n α}
    {reply : α → Reply}
    (hReply : Function.Injective reply)
    (hRoutine : Composed access taken fun β => reply <$> routine β) :
    Composed access taken routine := by
  classical
  have hBind :
      routine =
        fun β [Backend R β] =>
          (reply <$> routine β) >>= fun a =>
            if h : ∃ answer, reply answer = a then
              Pure.pure h.choose
            else
              MonadExcept.throw ProgramError.noActiveScope := by
    funext β _
    apply Action.eq_of_perform
    intro ctx
    rw [Action.perform_bind, Action.perform_map]
    rcases (routine β).perform ctx with ⟨e | a, after⟩
    · rfl
    · have hAnswer : ∃ answer, reply answer = reply a := ⟨a, rfl⟩
      simp only [Except.map, dif_pos hAnswer,
        hReply hAnswer.choose_spec, Action.perform_pure]
  rw [hBind]
  refine .bind hRoutine fun a => ?_
  by_cases hAnswer : ∃ answer, reply answer = a
  · simp only [dif_pos hAnswer]
    exact .pure hAnswer.choose
  · simp only [dif_neg hAnswer]
    exact .throw _

theorem ite
    {p : Prop}
    [Decidable p]
    {yes no : Routine R n α}
    (hYes : Composed access taken yes)
    (hNo : Composed access taken no) :
    Composed access taken fun β => if p then yes β else no β := by
  by_cases hp : p
  · simpa only [if_pos hp] using hYes
  · simpa only [if_neg hp] using hNo

------------------------------------------------------------
-- Operations of a context
------------------------------------------------------------

theorem unit_injective
    {f : Unit → Reply} :
    Function.Injective f :=
  fun _ _ _ => rfl

theorem allocateQubit :
    Composed (R := R) access taken fun _ => Context.allocateQubit :=
  .of_reply (fun _ _ hEq => Reply.qubit.inj hEq)
    (.put .allocateQubit)

theorem releaseQubit
    (q : QubitId) :
    Composed (R := R) access taken fun _ => Context.releaseQubit q :=
  .of_reply unit_injective (.put (.releaseQubit q))

theorem apply
    (g : Gate R)
    (target : QubitId) :
    Composed access taken fun _ => Context.apply g target :=
  .of_reply unit_injective (.put (.apply g target))

theorem applyControlled
    (g : Gate R)
    (controls : List QubitId)
    (target : QubitId) :
    Composed access taken fun _ =>
      Context.applyControlled g controls target :=
  .of_reply unit_injective
    (.put (.applyControlled g controls target))

theorem measure
    (bases : List Pauli)
    (targets : List QubitId) :
    Composed (R := R) access taken fun _ =>
      Context.measure bases targets :=
  .of_reply (fun _ _ hEq => Reply.result.inj hEq)
    (.put (.measure bases targets))

theorem areEqualResults
    (r₁ r₂ : ResultId) :
    Composed (R := R) access taken fun _ =>
      Context.areEqualResults r₁ r₂ :=
  .of_reply (fun _ _ hEq => Reply.bit.inj hEq)
    (.put (.areEqualResults r₁ r₂))

theorem releaseResult
    (r : ResultId) :
    Composed (R := R) access taken fun _ => Context.releaseResult r :=
  .of_reply unit_injective (.put (.releaseResult r))

theorem resultValue
    (r : ResultId) :
    Composed (R := R) access taken fun _ => Context.resultValue r :=
  .of_reply (fun _ _ hEq => Reply.bit.inj hEq)
    (.put (.resultValue r))

theorem zeroResult :
    Composed (R := R) access taken fun _ => Context.zeroResult :=
  .ask fun _ zero _ => zero

theorem oneResult :
    Composed (R := R) access taken fun _ => Context.oneResult :=
  .ask fun _ _ one => one

theorem backendName :
    Composed (R := R) access taken fun _ => Context.backendName :=
  .ask fun name _ _ => name

------------------------------------------------------------
-- Arrays
------------------------------------------------------------

theorem rollBack
    (qs : List QubitId) :
    Composed (R := R) access taken fun _ => Allocation.rollBack qs := by
  induction qs with
  | nil => exact .pure ()
  | cons q rest ih =>
      exact .bind (.attempt (.releaseQubit q)) fun outcome =>
        match outcome with
        | .ok () => ih
        | .error cause =>
            .bind (.note (.rollbackFailed q cause)) fun _ => ih

theorem allocateMore
    (allocated : List QubitId)
    (count : Nat) :
    Composed (R := R) access taken fun _ =>
      Allocation.allocateMore allocated count := by
  induction count generalizing allocated with
  | zero => exact .pure allocated
  | succ remaining ih =>
      exact .bind (.attempt .allocateQubit) fun outcome =>
        match outcome with
        | .ok q => ih (allocated ++ [q])
        | .error cause =>
            .bind (.rollBack allocated) fun _ => .throw cause

theorem allocateArray
    (count : Nat) :
    Composed (R := R) access taken fun _ =>
      Allocation.allocateArray count :=
  .allocateMore [] count

theorem releaseArray
    (qs : List QubitId) :
    Composed (R := R) access taken fun _ =>
      Allocation.releaseArray qs := by
  induction qs with
  | nil => exact .pure ()
  | cons q rest ih =>
      exact .bind (.releaseQubit q) fun _ => ih

------------------------------------------------------------
-- Intrinsics
------------------------------------------------------------

theorem cnot
    (control target : QubitId) :
    Composed (R := R) access taken fun _ =>
      Intrinsic.cnot control target :=
  .applyControlled .x [control] target

theorem swap
    (a b : QubitId) :
    Composed (R := R) access taken fun _ => Intrinsic.swap a b :=
  .bind (.cnot a b) fun _ =>
    .bind (.cnot b a) fun _ => .cnot a b

theorem reset
    (q : QubitId) :
    Composed (R := R) access taken fun _ => Intrinsic.reset q :=
  .bind (.measure [.z] [q]) fun r =>
    .bind (.resultValue r) fun _ =>
      .bind (.releaseResult r) fun _ =>
        .ite (.apply .x q) (.pure ())

theorem measureBit
    (q : QubitId) :
    Composed (R := R) access taken fun _ => Intrinsic.measureBit q :=
  .bind (.measure [.z] [q]) fun r =>
    .bind .oneResult fun one =>
      .bind (.areEqualResults r one) fun bit =>
        .bind (.releaseResult r) fun _ => .pure bit

------------------------------------------------------------
-- Protocols
------------------------------------------------------------

theorem qubitAt
    (qs : List QubitId)
    (index : Nat) :
    Composed (R := R) access taken fun _ =>
      Protocol.qubitAt qs index := by
  cases hQubit : qs[index]? with
  | some q =>
      simp only [Protocol.qubitAt, hQubit]
      exact .pure q
  | none =>
      simp only [Protocol.qubitAt, hQubit]
      exact .throw _

theorem resetAll
    (qs : List QubitId) :
    Composed (R := R) access taken fun _ => Protocol.resetAll qs := by
  induction qs with
  | nil => exact .pure ()
  | cons q rest ih => exact .bind (.reset q) fun _ => ih

theorem bellPair :
    Composed (R := R) access taken fun _ => Protocol.bellPair :=
  .bind (.allocateArray 2) fun qs =>
    .bind (.qubitAt qs 0) fun a =>
      .bind (.qubitAt qs 1) fun b =>
        .bind (.apply .h a) fun _ =>
          .bind (.cnot a b) fun _ =>
            .bind (.measureBit a) fun bitA =>
              .bind (.measureBit b) fun bitB =>
                .bind (.reset a) fun _ =>
                  .bind (.reset b) fun _ =>
                    .bind (.releaseArray qs) fun _ =>
                      .pure (bitA, bitB)

theorem chain
    (qs : List QubitId) :
    Composed (R := R) access taken fun _ => Protocol.chain qs := by
  induction qs with
  | nil => exact .pure ()
  | cons a rest ih =>
      cases rest with
      | nil => exact .pure ()
      | cons b rest => exact .bind (.cnot a b) fun _ => ih

theorem measureAndReset
    (qs : List QubitId) :
    Composed (R := R) access taken fun _ =>
      Protocol.measureAndReset qs := by
  induction qs with
  | nil => exact .pure []
  | cons q rest ih =>
      exact .bind (.measureBit q) fun bit =>
        .bind (.reset q) fun _ =>
          .bind ih fun bits => .pure (bit :: bits)

theorem ghz
    (count : Nat) :
    Composed (R := R) access taken fun _ => Protocol.ghz count :=
  .ite (.throw _)
    (.bind (.allocateArray count) fun qs =>
      .bind (.qubitAt qs 0) fun first =>
        .bind (.apply .h first) fun _ =>
          .bind (.chain qs) fun _ =>
            .bind (.measureAndReset qs) fun bits =>
              .bind (.releaseArray qs) fun _ => .pure bits)

/- The receiving qubit is measured, and all are given back. -/
theorem received
    (bob : QubitId)
    (qs : List QubitId) :
    Composed (R := R) access taken fun _ =>
      (do
        let bit ← Intrinsic.measureBit bob
        Protocol.resetAll qs
        Allocation.releaseArray qs
        Pure.pure bit) :=
  .bind (.measureBit bob) fun bit =>
    .bind (.resetAll qs) fun _ =>
      .bind (.releaseArray qs) fun _ => .pure bit

theorem teleport
    (angle : R) :
    Composed access taken fun _ => Protocol.teleport angle :=
  .bind (.allocateArray 3) fun qs =>
    .bind (.qubitAt qs 0) fun message =>
      .bind (.qubitAt qs 1) fun alice =>
        .bind (.qubitAt qs 2) fun bob =>
          have hSecond :=
            Composed.bind (.measureBit (R := R) message) fun _ =>
              .ite
                (.bind (.apply .z bob) fun _ => .received bob qs)
                (.received bob qs)
          .bind (.apply (.rx angle) message) fun _ =>
            .bind (.apply .h alice) fun _ =>
              .bind (.cnot alice bob) fun _ =>
                .bind (.cnot message alice) fun _ =>
                  .bind (.apply .h message) fun _ =>
                    .bind (.measureBit alice) fun _ =>
                      .ite
                        (.bind (.apply .x bob) fun _ => hSecond)
                        hSecond

------------------------------------------------------------
-- Instructions and programs
------------------------------------------------------------

/- Every instruction goes through the operations of a context. -/
theorem instruction
    (i : Instruction R) :
    Composed access taken fun _ => i.run := by
  cases i with
  | allocate => exact .map .allocateQubit _
  | allocateArray count => exact .map (.allocateArray count) _
  | release q => exact .map (.releaseQubit q) _
  | releaseArray qs => exact .map (.releaseArray qs) _
  | apply g target => exact .map (.apply g target) _
  | applyControlled g controls target =>
      exact .map (.applyControlled g controls target) _
  | cnot control target => exact .map (.cnot control target) _
  | cz control target =>
      exact .map (.applyControlled .z [control] target) _
  | swap a b => exact .map (.swap a b) _
  | reset q => exact .map (.reset q) _
  | measure bases targets => exact .map (.measure bases targets) _
  | resultEqual r₁ r₂ => exact .map (.areEqualResults r₁ r₂) _
  | resultValue r => exact .map (.resultValue r) _
  | resultZero => exact .map .zeroResult _
  | resultOne => exact .map .oneResult _
  | resultRelease r => exact .map (.releaseResult r) _
  | fail reason => exact .throw _
  | rejected cause => exact .throw _
  | backendName => exact .map .backendName _
  | depth => exact .view fun _ depth => .ok (Value.count depth)
  | config => exact .view fun config _ => .ok (Value.config config)
  | measureBit q => exact .map (.measureBit q) _
  | bellPair => exact .map .bellPair _
  | ghz count => exact .map (.ghz count) _
  | teleport angle => exact .map (.teleport angle) _

/- A scope may be opened on a backend that is not taken. -/
theorem withinDevice
    {device : Fin n}
    (track : Bool)
    {body : Routine R n α}
    (ending : Except ProgramError α → Ending)
    (hFree : device ∉ taken)
    (hBody : Composed access (insert device taken) body) :
    Composed access taken fun β =>
      Context.within (some device) track (body β) ending := by
  apply Composed.within
  · rintro d hTaken hDevice
    cases hDevice
    exact hFree hTaken
  · apply hBody.antitone
    rintro d (hTaken | hDevice)
    · exact Set.mem_insert_of_mem device hTaken
    · cases hDevice
      exact Set.mem_insert device taken

theorem answer
    (outcome : Except ProgramError α)
    (closing : Except ProgramError LeakReport) :
    Composed (R := R) access taken fun _ =>
      Context.answer outcome closing := by
  rcases outcome with e | value <;>
    rcases closing with leak | report
  · exact .bind (.note (.failedAndLeaked leak)) fun _ => .throw e
  · exact .throw e
  · exact .throw leak
  · exact .pure (value, report)

/-
  A program in a scope of its own is a scope that always
  finishes, followed by the choice of what to answer.
-/
theorem runProgram
    {device : Fin n}
    (track : Bool)
    {entry : Routine R n α}
    (hFree : device ∉ taken)
    (hEntry : Composed access (insert device taken) entry) :
    Composed access taken fun β =>
      Context.runProgram device track (entry β) := by
  -- A scope that finishes always has a closing outcome, so the
  -- answer given when there is none does not matter.
  have hProgram :
      (fun β [Backend R β] =>
          Context.runProgram device track (entry β)) =
        fun β [Backend R β] =>
          Context.within (some device) track (entry β)
              (fun _ => .finish) >>= fun ends =>
            match ends.2 with
            | some closing => Context.answer ends.1 closing
            | none => MonadExcept.throw ProgramError.noActiveScope := by
    funext β _
    apply Action.eq_of_perform
    intro ctx
    simp only [Context.runProgram, Context.concludeProgram_eq,
      Context.within, Context.endScope, Action.perform_bind,
      Action.perform_attempt, Action.perform_map,
      Action.perform_pure, Context.perform_openScope]
    rfl
  rw [hProgram]
  refine .bind (.withinDevice track _ hFree hEntry) fun ends => ?_
  rcases ends with ⟨outcome, _ | closing⟩
  · exact .throw _
  · exact .answer outcome closing

end Composed

end Routine

end QuantumRuntime

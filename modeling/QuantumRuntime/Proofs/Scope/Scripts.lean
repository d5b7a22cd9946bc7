import QuantumRuntime.Proofs.Scope.Routine

/-
  This file proves that scripts are composed. A script of
  instructions and scopes does what some routine does, and the
  routine is composed if every scope of the script is opened on
  a backend that no scope around it holds.

  Key definitions include:
    * `Step.Scoped`
    * `Routine.Performs`

  Key theorems include:
    * `Step.composed`
    * `runSteps_composed`
    * `runUntilFailure_composed`
-/

namespace QuantumRuntime

variable {R : Type} [Scalar R] {n : Nat} {α : Type}

------------------------------------------------------------
-- Scripts of scopes
------------------------------------------------------------

mutual

/-
  A step goes through the scopes while some backends are taken:
  it reaches no backend directly, calls no callable, and opens
  scopes on other backends only.
-/
def Step.Scoped
    (taken : Set (Fin n)) : Step R n → Prop
  | .instruction _ => True
  | .scope device _ body _ =>
      (∀ d ∈ taken, device ≠ some d) ∧
        ScopedSteps (taken ∪ {d | device = some d}) body
  | .program device _ body =>
      device ∉ taken ∧ ScopedSteps (insert device taken) body
  | .call _ => False
  | .direct _ _ => False
  | .refused _ => True

/- All steps of a script go through the scopes. -/
def ScopedSteps
    (taken : Set (Fin n)) : List (Step R n) → Prop
  | [] => True
  | step :: rest => step.Scoped taken ∧ ScopedSteps taken rest

end

------------------------------------------------------------
-- Routines that perform a run
------------------------------------------------------------

/-
  A routine never fails, and answers and leaves what a run
  does.
-/
def Routine.Performs
    (routine : Routine R n α)
    (run :
      (β : Type) → [Backend R β] → [Observable R β] →
        Context n β → α × Context n β) : Prop :=
  ∀ (β : Type) [Backend R β] [Observable R β] (ctx : Context n β),
    (routine β).perform ctx = (.ok (run β ctx).1, (run β ctx).2)

/-
  What the steps of a program come to: their number, or the
  error of the step that has stopped them.
-/
def scriptEnding
    (count : Nat) : Option ProgramError → Except ProgramError Nat
  | none => .ok count
  | some e => .error e

namespace Context

variable {β : Type} [Backend R β]

/- The number of open scopes, as a question. -/
def askDepth : Program n β Nat :=
  Action.query fun ctx => .ok ctx.depth

@[simp] theorem perform_askDepth
    (ctx : Context n β) :
    (askDepth : Program n β Nat).perform ctx =
      (.ok ctx.depth, ctx) :=
  rfl

/- What is seen of a scope of a script after it has ended. -/
def scopeOutcome :
    Except ProgramError (Nat × List (Outcome R)) ×
        Option (Except ProgramError LeakReport) →
      Program n β (Outcome R)
  | (.ok (inside, outcomes), closing) =>
      Outcome.scope inside outcomes closing <$> askDepth
  | (.error e, _) => throw e

/- What is seen of a program of a script after it has ended. -/
def programOutcome
    (count : Nat) :
    Except ProgramError (List (Outcome R) × Option ProgramError) ×
        Option (Except ProgramError LeakReport) →
      Program n β (Outcome R)
  | (.ok (outcomes, failure), some closing) => do
      let ending ← (answer (scriptEnding count failure) closing).attempt
      Outcome.program outcomes ending <$> askDepth
  | (.ok _, none) => throw .noActiveScope
  | (.error e, _) => throw e

/- Dropping a scope never fails. -/
theorem perform_dropScope_fst
    (ctx : Context n β) :
    ((dropScope : Program n β Unit).perform ctx).1 = .ok () := by
  simp only [dropScope, Action.perform_bind,
    Action.perform_attempt]
  rcases (closeScope : Program n β LeakReport).perform ctx with
    ⟨e | report, after⟩
  · cases e <;> rfl
  · rfl

end Context

------------------------------------------------------------
-- Scopes and programs of a script
------------------------------------------------------------

namespace Routine.Composed

variable {access : Access} {taken : Set (Fin n)}

theorem askDepth :
    Composed (R := R) access taken fun _ => Context.askDepth :=
  .view fun _ depth => .ok depth

theorem scopeOutcome
    (ends :
      Except ProgramError (Nat × List (Outcome R)) ×
        Option (Except ProgramError LeakReport)) :
    Composed (R := R) access taken fun _ =>
      Context.scopeOutcome ends := by
  rcases ends with ⟨e | ⟨inside, outcomes⟩, closing⟩
  · exact .throw e
  · exact .map .askDepth _

theorem programOutcome
    (count : Nat)
    (ends :
      Except ProgramError (List (Outcome R) × Option ProgramError) ×
        Option (Except ProgramError LeakReport)) :
    Composed (R := R) access taken fun _ =>
      Context.programOutcome count ends := by
  rcases ends with ⟨e | ⟨outcomes, failure⟩, _ | closing⟩
  · exact .throw e
  · exact .throw e
  · exact .throw _
  · exact .bind (.attempt (.answer _ closing)) fun ending =>
      .map .askDepth _

end Routine.Composed

/- A scope does what a composed routine does, if its body does. -/
theorem Step.composed_scope
    {taken : Set (Fin n)}
    {device : Option (Fin n)}
    (track : Bool)
    {body : List (Step R n)}
    (ending : Ending)
    (hFree : ∀ d ∈ taken, device ≠ some d)
    {routine : Routine R n (List (Outcome R))}
    (hComposed :
      Routine.Composed .recorded (taken ∪ {d | device = some d})
        routine)
    (hPerforms : routine.Performs fun _ => runSteps body) :
    ∃ routine : Routine R n (Outcome R),
      Routine.Composed .recorded taken routine ∧
        routine.Performs fun _ =>
          (Step.scope device track body ending).run := by
  have hInside :
      Routine.Composed .recorded (taken ∪ {d | device = some d})
        fun β =>
          Context.askDepth >>= fun inside =>
            (fun outcomes => (inside, outcomes)) <$> routine β :=
    .bind .askDepth fun _ => .map hComposed _
  refine ⟨_,
    .bind (.within track (fun _ => ending) hFree hInside)
      fun ends => .scopeOutcome ends, ?_⟩
  intro β _ _ ctx
  simp only [Context.within, Action.perform_bind,
    Context.perform_openScope, Context.perform_askDepth,
    Action.perform_attempt, Action.perform_map, hPerforms β,
    Except.map, Step.run]
  cases ending with
  | finish => rfl
  | drop =>
      simp only [Context.endScope, Action.perform_map,
        Context.perform_dropScope_fst]
      rfl

/- A program is concluded after its steps. -/
theorem Step.run_program
    {β : Type}
    [Backend R β]
    [Observable R β]
    (device : Fin n)
    (track : Bool)
    (body : List (Step R n))
    (ctx : Context n β) :
    let run := runUntilFailure body (ctx.opened (some device) track)
    let closing :=
      (Context.concludeProgram
        (scriptEnding body.length run.1.2)).perform run.2
    (program device track body).run ctx =
      (.program run.1.1 closing.1 closing.2.depth, closing.2) := by
  simp only [Step.run, Context.perform_openScope]
  rcases runUntilFailure body (ctx.opened (some device) track) with
    ⟨⟨outcomes, _ | e⟩, inside⟩
  · rfl
  · rfl

/- So does a program. -/
theorem Step.composed_program
    {taken : Set (Fin n)}
    {device : Fin n}
    (track : Bool)
    {body : List (Step R n)}
    (hFree : device ∉ taken)
    {routine : Routine R n (List (Outcome R) × Option ProgramError)}
    (hComposed :
      Routine.Composed .recorded (insert device taken) routine)
    (hPerforms : routine.Performs fun _ => runUntilFailure body) :
    ∃ routine : Routine R n (Outcome R),
      Routine.Composed .recorded taken routine ∧
        routine.Performs fun _ =>
          (Step.program device track body).run := by
  refine ⟨_,
    .bind (.withinDevice track (fun _ => .finish) hFree hComposed)
      fun ends => .programOutcome body.length ends, ?_⟩
  intro β _ _ ctx
  simp only [Context.within, Context.endScope,
    Action.perform_bind, Context.perform_openScope,
    Action.perform_attempt, Action.perform_map, hPerforms β,
    Except.map, Action.perform_pure, Step.run_program,
    Context.concludeProgram_eq]
  rfl

------------------------------------------------------------
-- Scripts as routines
------------------------------------------------------------

mutual

/- A step does what a composed routine does. -/
theorem Step.composed
    {taken : Set (Fin n)}
    (step : Step R n)
    (hScoped : step.Scoped taken) :
    ∃ routine : Routine R n (Outcome R),
      Routine.Composed .recorded taken routine ∧
        routine.Performs fun _ => step.run := by
  cases step with
  | instruction i =>
      refine ⟨fun _ => Outcome.instruction <$> i.run.attempt,
        .map (.attempt (.instruction i)) _, ?_⟩
      intro β _ _ ctx
      rw [Action.perform_map, Action.perform_attempt]
      rfl
  | scope device track body ending =>
      rw [Step.Scoped] at hScoped
      rcases runSteps_composed body hScoped.2 with
        ⟨routine, hComposed, hPerforms⟩
      exact Step.composed_scope track ending hScoped.1 hComposed
        hPerforms
  | program device track body =>
      rw [Step.Scoped] at hScoped
      rcases runUntilFailure_composed body hScoped.2 with
        ⟨routine, hComposed, hPerforms⟩
      exact Step.composed_program track hScoped.1 hComposed
        hPerforms
  | call c =>
      rw [Step.Scoped] at hScoped
      exact hScoped.elim
  | direct device step =>
      rw [Step.Scoped] at hScoped
      exact hScoped.elim
  | refused cause =>
      exact ⟨fun _ => Pure.pure (.refused cause), .pure _,
        fun _ _ _ _ => rfl⟩

/- Taking all steps does what a composed routine does. -/
theorem runSteps_composed
    {taken : Set (Fin n)}
    (steps : List (Step R n))
    (hScoped : ScopedSteps taken steps) :
    ∃ routine : Routine R n (List (Outcome R)),
      Routine.Composed .recorded taken routine ∧
        routine.Performs fun _ => runSteps steps := by
  cases steps with
  | nil =>
      exact ⟨fun _ => Pure.pure [], .pure _, fun _ _ _ _ => rfl⟩
  | cons step rest =>
      rw [ScopedSteps] at hScoped
      rcases step.composed hScoped.1 with
        ⟨first, hFirst, hStep⟩
      rcases runSteps_composed rest hScoped.2 with
        ⟨others, hOthers, hRest⟩
      refine ⟨fun β => first β >>= fun outcome =>
          (fun outcomes => outcome :: outcomes) <$> others β,
        .bind hFirst fun _ => .map hOthers _, ?_⟩
      intro β _ _ ctx
      simp only [Action.perform_bind, Action.perform_map, hStep β,
        hRest β, runSteps]
      rfl

/- So does taking the steps up to the first failure. -/
theorem runUntilFailure_composed
    {taken : Set (Fin n)}
    (steps : List (Step R n))
    (hScoped : ScopedSteps taken steps) :
    ∃ routine :
        Routine R n (List (Outcome R) × Option ProgramError),
      Routine.Composed .recorded taken routine ∧
        routine.Performs fun _ => runUntilFailure steps := by
  cases steps with
  | nil =>
      exact ⟨fun _ => Pure.pure ([], none), .pure _,
        fun _ _ _ _ => rfl⟩
  | cons step rest =>
      rw [ScopedSteps] at hScoped
      rcases step.composed hScoped.1 with
        ⟨first, hFirst, hStep⟩
      rcases runUntilFailure_composed rest hScoped.2 with
        ⟨others, hOthers, hRest⟩
      refine ⟨fun β => first β >>= fun outcome =>
          match outcome.failure? with
          | some e => Pure.pure ([], some e)
          | none =>
              (fun (outcomes, failure) =>
                (outcome :: outcomes, failure)) <$> others β,
        .bind hFirst fun outcome => ?_, ?_⟩
      · cases outcome.failure? with
        | some e => exact .pure _
        | none => exact .map hOthers _
      · intro β _ _ ctx
        simp only [Action.perform_bind, hStep β, runUntilFailure]
        cases (step.run ctx).1.failure? with
        | some e => rfl
        | none =>
            simp only [Action.perform_map, hRest β]
            rfl

end

end QuantumRuntime

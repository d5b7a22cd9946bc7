import QuantumRuntime.Callable.Recorder
import QuantumRuntime.Program.Protocols
import QuantumRuntime.Scope.Teardown
import QuantumRuntime.Simulator.Session

/-
  This file defines scripts: trees of instructions and nested
  scopes, and how they are run in a context.

  Key definitions include:
    * `Instruction`
    * `Instruction.run`
    * `Step`
    * `Outcome`
    * `Step.run`
    * `runSteps`
    * `runUntilFailure`
-/

namespace QuantumRuntime

------------------------------------------------------------
-- Instructions
------------------------------------------------------------

/- One operation of a program on the innermost scope. -/
inductive Instruction (R : Type) where
  | allocate
  | allocateArray (count : Nat)
  | release (q : QubitId)
  | releaseArray (qs : List QubitId)
  | apply (g : Gate R) (target : QubitId)
  | applyControlled (g : Gate R) (controls : List QubitId) (target : QubitId)
  | cnot (control target : QubitId)
  | cz (control target : QubitId)
  | swap (a b : QubitId)
  | reset (q : QubitId)
  | measure (bases : List Pauli) (targets : List QubitId)
  | resultEqual (r₁ r₂ : ResultId)
  | resultValue (r : ResultId)
  | resultZero
  | resultOne
  | resultRelease (r : ResultId)
  | fail (reason : String)
  | rejected (cause : BackendError)
  | backendName
  | depth
  | config
  | measureBit (q : QubitId)
  | bellPair
  | ghz (count : Nat)
  | teleport (angle : R)
deriving DecidableEq, Repr

/- What an instruction answers when it succeeds. -/
inductive Value where
  | nothing
  | qubit (q : QubitId)
  | qubits (qs : List QubitId)
  | result (r : ResultId)
  | bit (value : Bool)
  | bits (values : List Bool)
  | text (s : String)
  | count (n : Nat)
  | config (c : RunConfig)
deriving DecidableEq, Repr

namespace Instruction

variable {n : Nat} {β R : Type} [Scalar R] [Backend R β]

/- Carry out an instruction. -/
def run : Instruction R → Program n β Value
  | allocate => Value.qubit <$> Context.allocateQubit
  | allocateArray count => Value.qubits <$> Allocation.allocateArray count
  | release q => (fun _ => .nothing) <$> Context.releaseQubit q
  | releaseArray qs => (fun _ => .nothing) <$> Allocation.releaseArray qs
  | apply g target => (fun _ => .nothing) <$> Context.apply g target
  | applyControlled g controls target =>
      (fun _ => .nothing) <$> Context.applyControlled g controls target
  | cnot control target =>
      (fun _ => .nothing) <$> Intrinsic.cnot control target
  | cz control target =>
      (fun _ => .nothing) <$> Intrinsic.cz control target
  | swap a b => (fun _ => .nothing) <$> Intrinsic.swap a b
  | reset q => (fun _ => .nothing) <$> Intrinsic.reset q
  | measure bases targets => Value.result <$> Context.measure bases targets
  | resultEqual r₁ r₂ => Value.bit <$> Context.areEqualResults r₁ r₂
  | resultValue r => Value.bit <$> Context.resultValue r
  | resultZero => Value.result <$> Context.zeroResult
  | resultOne => Value.result <$> Context.oneResult
  | resultRelease r => (fun _ => .nothing) <$> Context.releaseResult r
  | fail reason => throw (.failed reason)
  | rejected cause => throw (.backend cause)
  | backendName => Value.text <$> Context.backendName
  | depth => Action.query fun ctx => .ok (.count ctx.depth)
  | config => Action.query fun ctx => .ok (.config ctx.config)
  | measureBit q => Value.bit <$> Intrinsic.measureBit q
  | bellPair => (fun (a, b) => .bits [a, b]) <$> Protocol.bellPair
  | ghz count => Value.bits <$> Protocol.ghz count
  | teleport angle => Value.bit <$> Protocol.teleport angle

end Instruction

------------------------------------------------------------
-- Steps
------------------------------------------------------------

/- How a scope of a script ends. -/
inductive Ending where
  | finish
  | drop
deriving DecidableEq, Repr

/- The construction and the call of a recording operation. -/
structure CallStep (R : Type) where
  recorder : Recorder R
  chain : List ChainLink
  args : List Int64
  controls : List (List QubitId)

/-
  A step of a script: an instruction, a scope whose body is run
  to its end, a program that stops at its first failure, a call
  of a callable, a step on a device behind the back of the
  scopes, or a step that was refused before it could be taken.
-/
inductive Step (R : Type) (n : Nat) where
  | instruction (i : Instruction R)
  | scope
      (device : Option (Fin n))
      (track : Bool)
      (body : List (Step R n))
      (ending : Ending)
  | program (device : Fin n) (track : Bool) (body : List (Step R n))
  | call (c : CallStep R)
  | direct (device : Fin n) (step : DeviceStep R)
  | refused (cause : BackendError)

------------------------------------------------------------
-- Outcomes
------------------------------------------------------------

/- What is seen of a call: what was built, and what it did. -/
structure CallOutcome where
  operationText : String
  operationName : String
  callableName : String
  callableText : String
  isAdjoint : Bool
  depth : Nat
  calls : List CallRecord
  ending : Except ProgramError Unit

/- What a step gives. -/
inductive Outcome (R : Type) where
  | instruction (answer : Except ProgramError Value)
  | scope
      (inside : Nat)
      (body : List (Outcome R))
      (ending : Option (Except ProgramError LeakReport))
      (after : Nat)
  | program
      (body : List (Outcome R))
      (ending : Except ProgramError (Nat × LeakReport))
      (after : Nat)
  | call (outcome : CallOutcome)
  | direct (answer : Except BackendError (DeviceAnswer R))
  | refused (cause : BackendError)

namespace Outcome

variable {R : Type}

/- The error that stops a program. Only instructions stop one. -/
def failure? : Outcome R → Option ProgramError
  | instruction (.error e) => some e
  | _ => none

end Outcome

------------------------------------------------------------
-- Running
------------------------------------------------------------

section

variable {n : Nat} {β R : Type}
variable [Scalar R] [Backend R β] [Observable R β]

/- Build and call a callable. -/
def CallStep.run
    (c : CallStep R)
    (ctx : Context n β) : CallOutcome × Context n β :=
  let op : Operation (Recording n β) (List Int64) := c.recorder.operation
  let f := (Callable.ofOperation op).applyChain c.chain
  let (ending, recording) :=
    (f.invoke c.controls c.args).perform { context := ctx, calls := [] }
  ({ operationText := op.text
     operationName := op.name
     callableName := f.name
     callableText := f.text
     isAdjoint := f.isAdjoint
     depth := f.controlledDepth
     calls := recording.calls
     ending := ending },
    recording.context)

mutual

/- Take a step. -/
def Step.run
    (step : Step R n)
    (ctx : Context n β) : Outcome R × Context n β :=
  match step with
  | .instruction i =>
      let (answer, ctx) := i.run.perform ctx
      (.instruction answer, ctx)
  | .scope device track body ending =>
      let (_, ctx) := (Context.openScope device track).perform ctx
      let inside := ctx.depth
      let (outcomes, ctx) := runSteps body ctx
      match ending with
      | .finish =>
          let (closing, ctx) := Context.finish.perform ctx
          (.scope inside outcomes (some closing) ctx.depth, ctx)
      | .drop =>
          let (_, ctx) := Context.dropScope.perform ctx
          (.scope inside outcomes none ctx.depth, ctx)
  | .program device track body =>
      let (_, ctx) := (Context.openScope (some device) track).perform ctx
      let ((outcomes, failure), ctx) := runUntilFailure body ctx
      let (closing, ctx) :=
        (Context.concludeProgram
          (match failure with
            | none => .ok body.length
            | some e => .error e)).perform ctx
      (.program outcomes closing ctx.depth, ctx)
  | .call c =>
      let (outcome, ctx) := c.run ctx
      (.call outcome, ctx)
  | .direct device step =>
      let (answer, ctx) := (Context.onDevice device step.run).perform ctx
      (.direct answer, ctx)
  | .refused cause => (.refused cause, ctx)

/- Take steps one after the other, failed ones included. -/
def runSteps
    (steps : List (Step R n))
    (ctx : Context n β) : List (Outcome R) × Context n β :=
  match steps with
  | [] => ([], ctx)
  | step :: rest =>
      let (outcome, ctx) := step.run ctx
      let (outcomes, ctx) := runSteps rest ctx
      (outcome :: outcomes, ctx)

/-
  Take steps up to the first that stops the program. That step
  is left out of the outcomes, and its error is given instead.
-/
def runUntilFailure
    (steps : List (Step R n))
    (ctx : Context n β) :
    (List (Outcome R) × Option ProgramError) × Context n β :=
  match steps with
  | [] => (([], none), ctx)
  | step :: rest =>
      let (outcome, ctx) := step.run ctx
      match outcome.failure? with
      | some e => (([], some e), ctx)
      | none =>
          let ((outcomes, failure), ctx) := runUntilFailure rest ctx
          ((outcome :: outcomes, failure), ctx)

end

end

end QuantumRuntime

import QuantumRuntime.Callable.Recorder
import QuantumRuntime.Proofs.Performance

/-
  This file describes calls of an operation by the
  specialization that they select, and shows that an invocation
  of a callable is one such call. A recorded operation logs the
  calls of its specializations and otherwise does what the
  operation does.

  Key definitions include:
    * `Specialization.select`
    * `Operation.specialization`
    * `Operation.call`
    * `Operation.recorded`

  Key theorems include:
    * `Callable.invoke_eq`
    * `Operation.perform_call_recorded`
    * `Callable.call_partialApply`
-/

namespace QuantumRuntime

------------------------------------------------------------
-- Selection
------------------------------------------------------------

namespace Specialization

/-
  What is selected by an even or odd number of inversions and
  by a number of control levels. All levels but the first make
  no difference.
-/
def select
    (odd : Bool) : Nat → Specialization
  | 0 => if odd then adj else body
  | _ + 1 => if odd then ctladj else ctl

/- The controls that reach a specialization. -/
def received
    (which : Specialization)
    (controls : List QubitId) : List QubitId :=
  match which with
  | body => []
  | adj => []
  | ctl => controls
  | ctladj => controls

theorem received_select_zero
    (odd : Bool)
    (controls : List QubitId) :
    (select odd 0).received controls = [] := by
  cases odd <;> rfl

/- With one list of controls for each level, all are received. -/
theorem received_flatten
    (odd : Bool)
    (controls : List (List QubitId)) :
    (select odd controls.length).received controls.flatten =
      controls.flatten := by
  cases controls with
  | nil => exact received_select_zero odd _
  | cons first others => cases odd <;> rfl

end Specialization

------------------------------------------------------------
-- Calls of operations
------------------------------------------------------------

namespace Operation

variable {σ A : Type}

/-
  A specialization of an operation, or the functor for which
  the operation has none. A specialization that takes no
  controls ignores them.
-/
def specialization
    (op : Operation σ A) :
    Specialization →
      Except Functor (List QubitId → A → Action σ ProgramError Unit)
  | .body => .ok fun _ => op.body
  | .adj =>
      match op.adj with
      | some adj => .ok fun _ => adj
      | none => .error .adjoint
  | .ctl =>
      match op.ctl with
      | some ctl => .ok ctl
      | none => .error .controlled
  | .ctladj =>
      match op.ctladj with
      | some ctladj => .ok ctladj
      | none => .error .controlledAdjoint

/- The operation has the specialization. -/
def Offers
    (op : Operation σ A)
    (which : Specialization) : Prop :=
  (op.specialization which).isOk

instance
    (op : Operation σ A)
    (which : Specialization) :
    Decidable (op.Offers which) :=
  inferInstanceAs (Decidable (_ = true))

/- Call a specialization, or report that there is none. -/
def call
    (op : Operation σ A)
    (which : Specialization)
    (controls : List QubitId)
    (args : A) : Action σ ProgramError Unit :=
  match op.specialization which with
  | .ok run => run controls args
  | .error functor => throw (.missingSpecialization op.name functor)

theorem call_of_ok
    {op : Operation σ A}
    {which : Specialization}
    {run : List QubitId → A → Action σ ProgramError Unit}
    (hRun : op.specialization which = .ok run)
    (controls : List QubitId)
    (args : A) :
    op.call which controls args = run controls args := by
  rw [call, hRun]

theorem call_of_error
    {op : Operation σ A}
    {which : Specialization}
    {functor : Functor}
    (hMissing : op.specialization which = .error functor)
    (controls : List QubitId)
    (args : A) :
    op.call which controls args =
      throw (.missingSpecialization op.name functor) := by
  rw [call, hMissing]

theorem offers_of_ok
    {op : Operation σ A}
    {which : Specialization}
    {run : List QubitId → A → Action σ ProgramError Unit}
    (hRun : op.specialization which = .ok run) :
    op.Offers which := by
  rw [Offers, hRun]
  rfl

theorem not_offers_of_error
    {op : Operation σ A}
    {which : Specialization}
    {functor : Functor}
    (hMissing : op.specialization which = .error functor) :
    ¬ op.Offers which := by
  rw [Offers, hMissing]
  exact Bool.false_ne_true

/- Controls that are not received make no difference. -/
theorem call_received
    (op : Operation σ A)
    (which : Specialization)
    (controls : List QubitId)
    (args : A) :
    op.call which (which.received controls) args =
      op.call which controls args := by
  unfold call specialization
  cases which with
  | body => rfl
  | adj => cases op.adj <;> rfl
  | ctl => rfl
  | ctladj => rfl

end Operation

------------------------------------------------------------
-- Invocations
------------------------------------------------------------

namespace Callable

variable {σ A B C : Type}

/-
  An invocation with one list of controls for each level calls
  the selected specialization under all of them. Any other
  invocation is refused.
-/
theorem invoke_eq
    (f : Callable σ A)
    (controls : List (List QubitId))
    (args : A) :
    f.invoke controls args =
      if controls.length = f.controlledDepth then
        f.op.call (.select f.isAdjoint f.controlledDepth)
          controls.flatten args
      else
        throw (.controlDepthMismatch f.controlledDepth
          controls.length) := by
  unfold invoke
  by_cases hLength : controls.length = f.controlledDepth
  · rw [if_neg (Decidable.not_not.mpr hLength), if_pos hLength]
    rcases f with ⟨op, odd, depth⟩
    cases depth with
    | zero =>
        cases odd with
        | false => rfl
        | true =>
            simp only [Specialization.select, Operation.call,
              Operation.specialization]
            cases op.adj <;> rfl
    | succ depth =>
        cases odd with
        | false =>
            simp only [Specialization.select, Operation.call,
              Operation.specialization]
            cases op.ctl <;> rfl
        | true =>
            simp only [Specialization.select, Operation.call,
              Operation.specialization]
            cases op.ctladj <;> rfl
  · rw [if_pos hLength, if_neg hLength]

theorem invoke_nil
    (op : Operation σ A)
    (odd : Bool)
    (args : A) :
    invoke ⟨op, odd, 0⟩ [] args =
      op.call (.select odd 0) [] args := by
  rw [invoke_eq]
  simp

theorem invoke_singleton
    (op : Operation σ A)
    (odd : Bool)
    (controls : List QubitId)
    (args : A) :
    invoke ⟨op, odd, 1⟩ [controls] args =
      op.call (.select odd 1) controls args := by
  rw [invoke_eq]
  simp

/-
  A callable with some arguments fixed passes each call on to
  the operation behind it. The inversions of the callable add
  to those that selected the call; its control levels do not.
-/
theorem call_partialApply
    (f : Callable σ A)
    (captured : C)
    (merge : C → B → A)
    (odd : Bool)
    (depth : Nat)
    (controls : List QubitId)
    (rest : B) :
    (f.partialApply captured merge).op.call (.select odd depth)
        controls rest =
      f.op.call (.select (f.isAdjoint ^^ odd) depth)
        controls (merge captured rest) := by
  cases depth with
  | zero =>
      rw [← f.op.call_received, Specialization.received_select_zero]
      cases odd with
      | false =>
          rw [Bool.xor_false]
          exact invoke_nil ..
      | true =>
          rw [Bool.xor_true]
          exact invoke_nil ..
  | succ depth =>
      cases odd with
      | false =>
          rw [Bool.xor_false]
          exact invoke_singleton ..
      | true =>
          rw [Bool.xor_true]
          exact invoke_singleton ..

------------------------------------------------------------
-- Functors and partial application
------------------------------------------------------------

theorem adjoint_adjoint
    (f : Callable σ A) :
    f.adjoint.adjoint = f := by
  rcases f with ⟨op, odd, depth⟩
  simp only [adjoint, Bool.not_not]

theorem controlled_adjoint
    (f : Callable σ A) :
    f.adjoint.controlled = f.controlled.adjoint :=
  rfl

/- An inversion may come before or after. -/
theorem invoke_adjoint_partialApply
    (f : Callable σ A)
    (captured : C)
    (merge : C → B → A)
    (controls : List (List QubitId))
    (rest : B) :
    (f.adjoint.partialApply captured merge).invoke controls rest =
      (f.partialApply captured merge).adjoint.invoke
        controls rest := by
  -- Either way the inverted callable behind the partial one runs.
  rw [invoke_eq, invoke_eq]
  congr 1

/- A control level that comes before is dropped. -/
theorem controlled_partialApply
    (f : Callable σ A)
    (captured : C)
    (merge : C → B → A) :
    f.controlled.partialApply captured merge =
      f.partialApply captured merge :=
  rfl

/- A control level that comes after reaches what is called. -/
theorem invoke_partialApply_controlled
    (f : Callable σ A)
    (captured : C)
    (merge : C → B → A)
    (controls : List (List QubitId))
    (rest : B) :
    (f.partialApply captured merge).controlled.invoke
        controls rest =
      ({ f with controlledDepth := 0 } :
        Callable σ A).controlled.invoke controls
          (merge captured rest) := by
  rw [invoke_eq, invoke_eq]
  congr 1
  have hCall :=
    f.call_partialApply captured merge false 1
      controls.flatten rest
  rw [Bool.xor_false] at hCall
  exact hCall

end Callable

------------------------------------------------------------
-- Recorded calls
------------------------------------------------------------

namespace Operation

variable {σ A : Type}

/- Which specialization was called, and with what. -/
structure Call (A : Type) where
  which : Specialization
  controls : List QubitId
  args : A

/- Note a call, then do what it does. -/
def noted
    (entry : Call A)
    (action : Action σ ProgramError Unit) :
    Action (σ × List (Call A)) ProgramError Unit := do
  modify fun s => (s.1, s.2 ++ [entry])
  action.onPart Prod.fst fun inner s => (inner, s.2)

/-
  The same operation, each of whose specializations notes that
  it is called before it does anything.
-/
def recorded
    (op : Operation σ A) : Operation (σ × List (Call A)) A :=
  { name := op.name
    body := fun args => noted ⟨.body, [], args⟩ (op.body args)
    adj :=
      op.adj.map fun adj args => noted ⟨.adj, [], args⟩ (adj args)
    ctl :=
      op.ctl.map fun ctl controls args =>
        noted ⟨.ctl, controls, args⟩ (ctl controls args)
    ctladj :=
      op.ctladj.map fun ctladj controls args =>
        noted ⟨.ctladj, controls, args⟩ (ctladj controls args) }

theorem perform_noted
    (entry : Call A)
    (action : Action σ ProgramError Unit)
    (s : σ)
    (calls : List (Call A)) :
    (noted entry action).perform (s, calls) =
      ((action.perform s).1, (action.perform s).2,
        calls ++ [entry]) := by
  simp [noted]

theorem specialization_recorded
    (op : Operation σ A)
    (which : Specialization) :
    op.recorded.specialization which =
      (op.specialization which).map fun run controls args =>
        noted ⟨which, which.received controls, args⟩
          (run controls args) := by
  rcases op with ⟨name, body, adj, ctl, ctladj⟩
  cases which with
  | body => rfl
  | adj => cases adj <;> rfl
  | ctl => cases ctl <;> rfl
  | ctladj => cases ctladj <;> rfl

/-
  A call of a recorded operation is noted once if there is
  something to call, and is not noted otherwise.
-/
theorem perform_call_recorded
    (op : Operation σ A)
    (which : Specialization)
    (controls : List QubitId)
    (args : A)
    (s : σ)
    (calls : List (Call A)) :
    (op.recorded.call which controls args).perform (s, calls) =
      (((op.call which controls args).perform s).1,
        ((op.call which controls args).perform s).2,
        calls ++
          if op.Offers which then
            [⟨which, which.received controls, args⟩]
          else
            []) := by
  have hRecorded := op.specialization_recorded which
  cases hFound : op.specialization which with
  | error functor =>
      rw [hFound] at hRecorded
      rw [call_of_error hRecorded, call_of_error hFound,
        if_neg (not_offers_of_error hFound), List.append_nil]
      rfl
  | ok run =>
      rw [hFound] at hRecorded
      rw [call_of_ok hRecorded, call_of_ok hFound,
        if_pos (offers_of_ok hFound), perform_noted]

end Operation

end QuantumRuntime

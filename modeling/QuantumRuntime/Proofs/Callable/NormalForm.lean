import QuantumRuntime.Proofs.Callable.Dispatch
import QuantumRuntime.Simulator.Builtin

/-
  This file shows that callables have a normal form: however
  functors and partial applications are nested, what a callable
  does is determined by a parity, a depth and an argument map.

  Key definitions include:
    * `Construction`
    * `Construction.build`
    * `Construction.parity`
    * `Construction.depth`
    * `Construction.argumentMap`
    * `Callable.Forwards`

  Key theorems include:
    * `Construction.forwards_build`
    * `Construction.invoke_build`
    * `callables_have_normal_form`
-/

namespace QuantumRuntime

------------------------------------------------------------
-- Constructions
------------------------------------------------------------

/-
  How a callable on arguments `B` is built from an operation on
  arguments `A`.
-/
inductive Construction (A : Type) : Type → Type 1 where
  | base : Construction A A
  | adjoint {B : Type}
      (inner : Construction A B) : Construction A B
  | controlled {B : Type}
      (inner : Construction A B) : Construction A B
  | partialApply {B C D : Type}
      (inner : Construction A B)
      (captured : C)
      (merge : C → D → B) : Construction A D

namespace Construction

variable {σ A : Type}

/- The callable that is built. -/
def build
    (op : Operation σ A) :
    {B : Type} → Construction A B → Callable σ B
  | _, base => .ofOperation op
  | _, adjoint inner => (inner.build op).adjoint
  | _, controlled inner => (inner.build op).controlled
  | _, partialApply inner captured merge =>
      (inner.build op).partialApply captured merge

/- An odd number of inversions was applied. -/
def parity : {B : Type} → Construction A B → Bool
  | _, base => false
  | _, adjoint inner => !inner.parity
  | _, controlled inner => inner.parity
  | _, partialApply inner _ _ => inner.parity

/-
  The number of control levels that were applied since the last
  partial application.
-/
def depth : {B : Type} → Construction A B → Nat
  | _, base => 0
  | _, adjoint inner => inner.depth
  | _, controlled inner => inner.depth + 1
  | _, partialApply _ _ _ => 0

/- What the operation is given for the arguments of a call. -/
def argumentMap : {B : Type} → Construction A B → B → A
  | _, base => id
  | _, adjoint inner => inner.argumentMap
  | _, controlled inner => inner.argumentMap
  | _, partialApply inner captured merge =>
      inner.argumentMap ∘ merge captured

end Construction

------------------------------------------------------------
-- Forwarding
------------------------------------------------------------

/-
  Each call of `f`, under any number of further functors, is a
  call of `op` on mapped arguments. The inversions behind `f`
  have the parity `odd`, no matter how many of them `f` has
  passed to the operation it holds.
-/
def Callable.Forwards
    {σ A B : Type}
    (f : Callable σ B)
    (op : Operation σ A)
    (odd : Bool)
    (argumentMap : B → A) : Prop :=
  ∀ further depth controls rest,
    f.op.call (.select (f.isAdjoint ^^ further) depth)
        controls rest =
      op.call (.select (odd ^^ further) depth)
        controls (argumentMap rest)

namespace Callable.Forwards

variable {σ A B C D : Type}
variable {f : Callable σ B} {op : Operation σ A}
variable {odd : Bool} {argumentMap : B → A}

theorem ofOperation
    (op : Operation σ A) :
    (Callable.ofOperation op).Forwards op false id :=
  fun _ _ _ _ => rfl

theorem adjoint
    (hForwards : f.Forwards op odd argumentMap) :
    f.adjoint.Forwards op (!odd) argumentMap := by
  intro further depth controls rest
  have hInner := hForwards (!further) depth controls rest
  rw [Bool.xor_not, Bool.xor_not, ← Bool.not_xor,
    ← Bool.not_xor] at hInner
  exact hInner

theorem controlled
    (hForwards : f.Forwards op odd argumentMap) :
    f.controlled.Forwards op odd argumentMap :=
  hForwards

/- A partial application starts over and leaves the parity behind. -/
theorem partialApply
    (hForwards : f.Forwards op odd argumentMap)
    (captured : C)
    (merge : C → D → B) :
    (f.partialApply captured merge).Forwards op odd
      (argumentMap ∘ merge captured) := by
  intro further depth controls rest
  have hStart :
      (f.partialApply captured merge).isAdjoint = false :=
    rfl
  rw [hStart, Bool.false_xor, f.call_partialApply]
  exact hForwards further depth controls (merge captured rest)

end Callable.Forwards

------------------------------------------------------------
-- Normal forms
------------------------------------------------------------

namespace Construction

variable {σ A B : Type}

/- The invariant of every construction. -/
theorem forwards_build
    (op : Operation σ A)
    (c : Construction A B) :
    (c.build op).Forwards op c.parity c.argumentMap := by
  induction c with
  | base => exact .ofOperation op
  | adjoint inner ih => exact ih.adjoint
  | controlled inner ih => exact ih.controlled
  | partialApply inner captured merge ih =>
      exact ih.partialApply captured merge

theorem controlledDepth_build
    (op : Operation σ A)
    (c : Construction A B) :
    (c.build op).controlledDepth = c.depth := by
  induction c with
  | base => rfl
  | adjoint inner ih => exact ih
  | controlled inner ih => exact congrArg (· + 1) ih
  | partialApply inner captured merge ih => rfl

/- An invocation calls the operation behind it, or is refused. -/
theorem invoke_build
    (op : Operation σ A)
    (c : Construction A B)
    (controls : List (List QubitId))
    (rest : B) :
    (c.build op).invoke controls rest =
      if controls.length = c.depth then
        op.call (.select c.parity c.depth) controls.flatten
          (c.argumentMap rest)
      else
        throw (.controlDepthMismatch c.depth controls.length) := by
  have hCall :=
    c.forwards_build op false c.depth controls.flatten rest
  rw [Bool.xor_false, Bool.xor_false] at hCall
  rw [Callable.invoke_eq, controlledDepth_build, hCall]

/-
  Watching the operation changes nothing but what is noted, and
  an invocation has noted at most one call.
-/
theorem perform_invoke_recorded
    (op : Operation σ A)
    (c : Construction A B)
    (controls : List (List QubitId))
    (rest : B)
    (s : σ)
    (calls : List (Operation.Call A)) :
    ((c.build op.recorded).invoke controls rest).perform
        (s, calls) =
      ((((c.build op).invoke controls rest).perform s).1,
        (((c.build op).invoke controls rest).perform s).2,
        calls ++
          if controls.length = c.depth ∧
              op.Offers (.select c.parity c.depth) then
            [⟨.select c.parity c.depth, controls.flatten,
              c.argumentMap rest⟩]
          else
            []) := by
  rw [invoke_build, invoke_build]
  by_cases hLength : controls.length = c.depth
  · have hReceived :=
      Specialization.received_flatten c.parity controls
    rw [hLength] at hReceived
    rw [if_pos hLength, if_pos hLength,
      Operation.perform_call_recorded, hReceived]
    simp only [hLength, true_and]
  · have hNothing :
        ¬ (controls.length = c.depth ∧
          op.Offers (.select c.parity c.depth)) :=
      fun hCalled => hLength hCalled.1
    rw [if_neg hLength, if_neg hLength, if_neg hNothing,
      List.append_nil]
    rfl

/-
  Only an invocation with the wrong number of control lists is
  refused for it before anything is called.
-/
theorem refused_iff
    (op : Operation σ A)
    (c : Construction A B)
    (controls : List (List QubitId))
    (rest : B)
    (s : σ)
    (calls : List (Operation.Call A)) :
    ((c.build op.recorded).invoke controls rest).perform
        (s, calls) =
        (.error (.controlDepthMismatch c.depth controls.length),
          s, calls) ↔
      controls.length ≠ c.depth := by
  constructor
  · intro hRefused hLength
    rw [perform_invoke_recorded] at hRefused
    rcases Prod.mk.inj hRefused with ⟨hAnswer, hAfter⟩
    rcases Prod.mk.inj hAfter with ⟨-, hCalls⟩
    cases hFound :
        op.specialization (.select c.parity c.depth) with
    | error functor =>
        rw [invoke_build, if_pos hLength,
          Operation.call_of_error hFound] at hAnswer
        simp at hAnswer
    | ok run =>
        rw [if_pos ⟨hLength, Operation.offers_of_ok hFound⟩]
          at hCalls
        simp at hCalls
  · intro hLength
    rw [invoke_build, if_neg hLength]
    rfl

end Construction

------------------------------------------------------------
-- The normal form
------------------------------------------------------------

/-
  A callable built in any way does what its parity, depth and
  argument map say. With as many lists of controls as its depth
  it calls the one specialization that these select, once, under
  all controls in order and on the mapped arguments, or reports
  the functor that the operation lacks; with any other number it
  is refused and nothing is called. Inversions cancel and pass
  through control levels and partial applications. A partial
  application drops the control levels it finds, and a level
  applied to it acts as one on the callable behind it.
-/
theorem callables_have_normal_form
    {σ A B : Type}
    (op : Operation σ A)
    (c : Construction A B)
    (controls : List (List QubitId))
    (rest : B)
    (s : σ)
    (calls : List (Operation.Call A)) :
    (c.build op).invoke controls rest =
        (if controls.length = c.depth then
          match op.specialization (.select c.parity c.depth) with
          | .ok run => run controls.flatten (c.argumentMap rest)
          | .error functor =>
              throw (.missingSpecialization op.name functor)
        else
          throw (.controlDepthMismatch c.depth controls.length)) ∧
      ((c.build op.recorded).invoke controls rest).perform
          (s, calls) =
        ((((c.build op).invoke controls rest).perform s).1,
          (((c.build op).invoke controls rest).perform s).2,
          calls ++
            if controls.length = c.depth ∧
                op.Offers (.select c.parity c.depth) then
              [⟨.select c.parity c.depth, controls.flatten,
                c.argumentMap rest⟩]
            else
              []) ∧
      (((c.build op.recorded).invoke controls rest).perform
          (s, calls) =
          (.error
            (.controlDepthMismatch c.depth controls.length),
            s, calls) ↔
        controls.length ≠ c.depth) ∧
      c.adjoint.adjoint.build op = c.build op ∧
      c.adjoint.controlled.build op =
        c.controlled.adjoint.build op ∧
      ∀ (C D : Type) (captured : C) (merge : C → D → B),
        (∀ controls rest,
          ((c.adjoint.partialApply captured merge).build
              op).invoke controls rest =
            ((c.partialApply captured merge).adjoint.build
              op).invoke controls rest) ∧
          (c.controlled.partialApply captured merge).build op =
            (c.partialApply captured merge).build op ∧
          ∀ controls rest,
            ((c.partialApply captured merge).controlled.build
                op).invoke controls rest =
              ({ c.build op with controlledDepth := 0 } :
                Callable σ B).controlled.invoke controls
                  (merge captured rest) := by
  refine ⟨c.invoke_build op controls rest,
    c.perform_invoke_recorded op controls rest s calls,
    c.refused_iff op controls rest s calls,
    (c.build op).adjoint_adjoint, (c.build op).controlled_adjoint,
    ?_⟩
  intro C D captured merge
  exact ⟨(c.build op).invoke_adjoint_partialApply captured merge,
    (c.build op).controlled_partialApply captured merge,
    (c.build op).invoke_partialApply_controlled captured merge⟩

/-
  Control levels do not commute with partial application. With
  one list of controls, an operation that was controlled first
  and then partially applied refuses the call; the other way
  round, its controlled specialization runs.
-/
theorem earlier_control_level_is_dropped :
    let recorder : Recorder Float :=
      { name := "K"
        hasAdj := true
        hasCtl := true
        hasCtladj := true
        gate := none
        failure := fun _ => none }
    let op : Operation (Recording 0 (Builtin Float)) (List Int64) :=
      recorder.operation
    let plain : Construction (List Int64) (List Int64) := .base
    let join := fun captured rest : List Int64 => captured ++ rest
    let controlledFirst := plain.controlled.partialApply [1] join
    let controlledLast := (plain.partialApply [1] join).controlled
    let start : Recording 0 (Builtin Float) :=
      { context := Context.start RunConfig.standard #v[]
        calls := [] }
    let first :=
      ((controlledFirst.build op).invoke [[⟨0⟩]] [2]).perform start
    let last :=
      ((controlledLast.build op).invoke [[⟨0⟩]] [2]).perform start
    first.1 = .error (.controlDepthMismatch 0 1) ∧
      first.2.calls = [] ∧
      last.1 = .ok () ∧
      last.2.calls = [⟨.ctl, some [⟨0⟩], [1, 2]⟩] ∧
      ¬ ∀ controls rest,
        (controlledFirst.build op).invoke controls rest =
          (controlledLast.build op).invoke controls rest := by
  intro recorder op plain join controlledFirst controlledLast start
    first last
  have hFirst : first.1 = .error (.controlDepthMismatch 0 1) := rfl
  have hLast : last.1 = .ok () := rfl
  refine ⟨hFirst, rfl, hLast, rfl, ?_⟩
  intro hCommute
  have hSame : first = last := by
    unfold first last
    rw [hCommute]
  rw [hSame, hLast] at hFirst
  cases hFirst

end QuantumRuntime

import QuantumRuntime.Action
import QuantumRuntime.Failure.Program
import QuantumRuntime.Handle
import QuantumRuntime.Text.Quoted

/-
  This file defines operations with their specializations, and
  callables: operations to which functors have been applied.

  Key definitions include:
    * `Operation`
    * `Callable`
    * `Callable.adjoint`
    * `Callable.controlled`
    * `Callable.invoke`
    * `Callable.partialApply`
-/

namespace QuantumRuntime

------------------------------------------------------------
-- Operations
------------------------------------------------------------

/-
  What an operation on arguments `A` does to a state `σ`: its
  body, and what it offers for each functor. A controlled
  specialization takes all controls in one list.
-/
structure Operation (σ : Type) (A : Type) where
  name : String
  body : A → Action σ ProgramError Unit
  adj : Option (A → Action σ ProgramError Unit)
  ctl : Option (List QubitId → A → Action σ ProgramError Unit)
  ctladj : Option (List QubitId → A → Action σ ProgramError Unit)

namespace Operation

variable {σ A : Type}

/- The text of an operation, which says what it offers. -/
def text
    (op : Operation σ A) : String :=
  "Operation \x7b name: " ++ quoted op.name ++
    s!", adj: {op.adj.isSome}, ctl: {op.ctl.isSome}, ctladj: {op.ctladj.isSome}" ++
    " \x7d"

end Operation

------------------------------------------------------------
-- Callables
------------------------------------------------------------

/-
  An operation, whether its inverse is meant, and how often it
  has been controlled.
-/
structure Callable (σ : Type) (A : Type) where
  op : Operation σ A
  isAdjoint : Bool
  controlledDepth : Nat

namespace Callable

variable {σ A B C : Type}

/- An operation as it stands. -/
def ofOperation
    (op : Operation σ A) : Callable σ A :=
  { op := op
    isAdjoint := false
    controlledDepth := 0 }

/- The inverse. Inverting twice cancels out. -/
def adjoint
    (f : Callable σ A) : Callable σ A :=
  { f with isAdjoint := !f.isAdjoint }

/- The same callable under one more level of control. -/
def controlled
    (f : Callable σ A) : Callable σ A :=
  { f with controlledDepth := f.controlledDepth + 1 }

/- The name of the operation. -/
def name
    (f : Callable σ A) : String :=
  f.op.name

/- The error about a specialization that the operation lacks. -/
def missing
    (f : Callable σ A)
    (functor : Functor) : Action σ ProgramError Unit :=
  throw (.missingSpecialization f.op.name functor)

/-
  Run the specialization that the functors select. There must
  be one list of controls for each level of control, and the
  lists are joined into one.
-/
def invoke
    (f : Callable σ A)
    (controls : List (List QubitId))
    (args : A) : Action σ ProgramError Unit :=
  if controls.length ≠ f.controlledDepth then
    throw (.controlDepthMismatch f.controlledDepth controls.length)
  else if f.controlledDepth = 0 then
    if f.isAdjoint then
      match f.op.adj with
      | some adj => adj args
      | none => f.missing .adjoint
    else
      f.op.body args
  else
    if f.isAdjoint then
      match f.op.ctladj with
      | some ctladj => ctladj controls.flatten args
      | none => f.missing .controlledAdjoint
    else
      match f.op.ctl with
      | some ctl => ctl controls.flatten args
      | none => f.missing .controlled

/-
  Fix some arguments in advance. `merge` joins them with the
  arguments of each call. The result is an operation of its own
  that passes every functor on; levels of control applied
  before are dropped.
-/
def partialApply
    (f : Callable σ A)
    (captured : C)
    (merge : C → B → A) : Callable σ B :=
  let target := { f with controlledDepth := 0 }
  ofOperation
    { name := f.op.name
      body := fun rest => target.invoke [] (merge captured rest)
      adj := some fun rest =>
        target.adjoint.invoke [] (merge captured rest)
      ctl := some fun controls rest =>
        target.controlled.invoke [controls] (merge captured rest)
      ctladj := some fun controls rest =>
        target.adjoint.controlled.invoke [controls]
          (merge captured rest) }

/- The text of a callable, which says what was applied to it. -/
def text
    (f : Callable σ A) : String :=
  "Callable \x7b op: " ++ quoted f.op.name ++
    s!", adjoint: {f.isAdjoint}, controlled_depth: {f.controlledDepth}" ++
    " \x7d"

end Callable

end QuantumRuntime

import QuantumRuntime.Callable.Basic
import QuantumRuntime.Scope.Context

/-
  This file defines an operation that records each call of one
  of its specializations and then plays a gate, and chains of
  functors to be applied to it.

  Key definitions include:
    * `Specialization`
    * `CallRecord`
    * `Recording`
    * `Recorder`
    * `Recorder.operation`
    * `ChainLink`
    * `Callable.applyChain`
-/

namespace QuantumRuntime

------------------------------------------------------------
-- Records of calls
------------------------------------------------------------

/- The four things that an operation can offer. -/
inductive Specialization where
  | body
  | adj
  | ctl
  | ctladj
deriving DecidableEq, Repr

namespace Specialization

/- The name of a specialization. -/
def text : Specialization → String
  | body => "body"
  | adj => "adj"
  | ctl => "ctl"
  | ctladj => "ctladj"

/- The specialization inverts the gate. -/
def IsInverse : Specialization → Prop
  | adj => True
  | ctladj => True
  | _ => False

instance
    (which : Specialization) :
    Decidable which.IsInverse := by
  cases which <;> unfold IsInverse <;> infer_instance

end Specialization

/- One call: what was called, under which controls, with what. -/
structure CallRecord where
  which : Specialization
  controls : Option (List QubitId)
  args : List Int64
deriving DecidableEq, Repr

/- A context together with the calls that were made in it. -/
structure Recording (n : Nat) (β : Type) where
  context : Context n β
  calls : List CallRecord

------------------------------------------------------------
-- Recording operations
------------------------------------------------------------

/-
  What a recording operation offers besides its body, the gate
  it plays, and the specializations that fail instead.
-/
structure Recorder (R : Type) where
  name : String
  hasAdj : Bool
  hasCtl : Bool
  hasCtladj : Bool
  gate : Option (Gate R)
  failure : Specialization → Option String

namespace Recorder

variable {n : Nat} {β R : Type} [Scalar R] [Backend R β]

/- Run a program in the context of a recording. -/
def inContext
    (program : Program n β Unit) : Action (Recording n β) ProgramError Unit :=
  program.onPart Recording.context fun ctx recording =>
    { recording with context := ctx }

/- The qubit that an argument names. -/
def qubitOf
    (arg : Int64) : QubitId :=
  { raw := arg.toUInt64.toNat }

/-
  Record a call, fail if the specialization is meant to, and
  otherwise play the gate on the qubit named by the last
  argument.
-/
def play
    (recorder : Recorder R)
    (which : Specialization)
    (controls : Option (List QubitId))
    (args : List Int64) : Action (Recording n β) ProgramError Unit := do
  modify fun recording =>
    { recording with
      calls :=
        recording.calls ++
          [{ which := which, controls := controls, args := args }] }
  match recorder.failure which with
  | some reason => throw (.failed reason)
  | none =>
      match recorder.gate with
      | none => pure ()
      | some gate =>
          match args.getLast? with
          | none => throw (.failed "no target")
          | some arg =>
              let g := if which.IsInverse then gate.adjoint else gate
              match controls with
              | none => inContext (Context.apply g (qubitOf arg))
              | some cs =>
                  inContext (Context.applyControlled g cs (qubitOf arg))

/- The operation that a recorder describes. -/
def operation
    (recorder : Recorder R) : Operation (Recording n β) (List Int64) :=
  { name := recorder.name
    body := recorder.play .body none
    adj := if recorder.hasAdj then some (recorder.play .adj none) else none
    ctl :=
      if recorder.hasCtl then
        some fun controls => recorder.play .ctl (some controls)
      else
        none
    ctladj :=
      if recorder.hasCtladj then
        some fun controls => recorder.play .ctladj (some controls)
      else
        none }

end Recorder

------------------------------------------------------------
-- Chains of functors
------------------------------------------------------------

/- One step in the construction of a callable. -/
inductive ChainLink where
  | adjoint
  | controlled
  | copy
  | fixArguments (captured : List Int64)
deriving DecidableEq, Repr

namespace Callable

variable {σ : Type}

/- Apply one step. Fixed arguments come before those of a call. -/
def applyLink
    (f : Callable σ (List Int64)) : ChainLink → Callable σ (List Int64)
  | .adjoint => f.adjoint
  | .controlled => f.controlled
  | .copy => f
  | .fixArguments captured =>
      f.partialApply captured fun fixed rest => fixed ++ rest

/- Apply steps from left to right. -/
def applyChain
    (f : Callable σ (List Int64))
    (chain : List ChainLink) : Callable σ (List Int64) :=
  chain.foldl applyLink f

end Callable

end QuantumRuntime

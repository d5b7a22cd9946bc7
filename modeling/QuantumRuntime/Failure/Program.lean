import QuantumRuntime.Failure.Backend
import QuantumRuntime.Scope.Report

/-
  This file defines why a program, or the configuration it runs
  under, fails.

  Key definitions include:
    * `Functor`
    * `ProgramError`
    * `ProgramError.message`
    * `ProgramError.IsContractViolation`
    * `ProgramError.IsUnsupported`
-/

namespace QuantumRuntime

------------------------------------------------------------
-- Functors
------------------------------------------------------------

/- What can be asked of an operation besides its body. -/
inductive Functor where
  | adjoint
  | controlled
  | controlledAdjoint
deriving DecidableEq, Repr

namespace Functor

/- The name of a functor. -/
def text : Functor → String
  | adjoint => "adjoint"
  | controlled => "controlled"
  | controlledAdjoint => "controlled adjoint"

end Functor

------------------------------------------------------------
-- Program errors
------------------------------------------------------------

/- Why a program stopped or a configuration was refused. -/
inductive ProgramError where
  | backend (cause : BackendError)
  | noActiveScope
  | noBackend
  | failed (reason : String)
  | leaked (report : LeakReport)
  | indexOutOfRange (index : Int64) (length : Nat)
  | rankMismatch (rank : Nat) (got : Nat)
  | invalidRange (start : Int64) (finish : Int64)
  | missingSpecialization (callable : String) (missing : Functor)
  | controlDepthMismatch (expected : Nat) (got : Nat)
  | configuration (reason : String)
  | unreadableFile
  | malformedDocument
deriving DecidableEq, Repr

namespace ProgramError

/-
  The wording of a program error. A file that cannot be read
  and a document that is not well formed have none of their
  own.
-/
def message : ProgramError → Option String
  | backend cause => cause.message
  | noActiveScope => some "no execution scope is active"
  | noBackend =>
      some "the current scope has no backend (classical-only scope)"
  | failed reason => some reason
  | leaked report => some report.text
  | indexOutOfRange index length =>
      some s!"index {index.toInt} out of range for array of length {length}"
  | rankMismatch rank got =>
      some s!"array of rank {rank} cannot be indexed with {got} coordinates"
  | invalidRange start finish =>
      some s!"invalid range {start.toInt}..0..{finish.toInt}: step must not be zero"
  | missingSpecialization callable missing =>
      some s!"callable '{callable}' has no {missing.text} specialization"
  | controlDepthMismatch expected got =>
      some s!"contract violation: expected {expected} control lists, got {got}"
  | configuration reason => some s!"Configuration error: {reason}"
  | unreadableFile => none
  | malformedDocument => none

/- The wording of an error where one is needed. -/
def text
    (e : ProgramError) : String :=
  e.message.getD ""

/- The program misused a handle, an index or an argument. -/
def IsContractViolation : ProgramError → Prop
  | backend cause => cause.IsContractViolation
  | controlDepthMismatch _ _ => True
  | indexOutOfRange _ _ => True
  | rankMismatch _ _ => True
  | _ => False

instance
    (e : ProgramError) :
    Decidable e.IsContractViolation := by
  cases e <;> unfold IsContractViolation <;> infer_instance

/- The backend lacks a capability that the program used. -/
def IsUnsupported : ProgramError → Prop
  | backend cause => cause.IsUnsupported
  | _ => False

instance
    (e : ProgramError) :
    Decidable e.IsUnsupported := by
  cases e <;> unfold IsUnsupported <;> infer_instance

end ProgramError

end QuantumRuntime

import QuantumRuntime.Scope.Context

/-
  This file defines how a scope ends: handles that the program
  left live are released if the configuration asks for it, and
  the leak policy decides what becomes of the rest.

  Key definitions include:
    * `Context.reclaim`
    * `Context.closeScope`
    * `Context.finish`
    * `Context.dropScope`
    * `Context.concludeProgram`
    * `Context.runProgram`
-/

namespace QuantumRuntime

namespace Context

variable {n : Nat} {β α R : Type} [Scalar R] [Backend R β]

------------------------------------------------------------
-- Reclaiming
------------------------------------------------------------

/-
  Release each of some handles on a backend. The answer lists
  the refused and the accepted ones, each in their order, and
  every refusal is noted.
-/
def releaseEach
    {K : Type}
    (device : Fin n)
    (release : K → Action β BackendError Unit)
    (notice : K → BackendError → Notice) :
    List K → Program n β (List K × List K)
  | [] => pure ([], [])
  | key :: rest => do
      match ← onDevice device (release key).attempt with
      | .ok () =>
          let (refused, accepted) ← releaseEach device release notice rest
          pure (refused, key :: accepted)
      | .error cause =>
          note (notice key cause)
          let (refused, accepted) ← releaseEach device release notice rest
          pure (key :: refused, accepted)

/-
  Release every handle of a report, results before qubits. The
  accepted handles become the reclaimed ones.
-/
def reclaim
    (device : Fin n)
    (report : LeakReport) : Program n β LeakReport := do
  let (results, goneResults) ←
    releaseEach device Backend.releaseResult Notice.notReclaimedResult
      report.results
  let (qubits, goneQubits) ←
    releaseEach device Backend.releaseQubit Notice.notReclaimedQubit
      report.qubits
  pure
    { qubits := qubits
      results := results
      reclaimed :=
        report.reclaimed ++ goneResults.map Handle.result ++
          goneQubits.map Handle.qubit }

------------------------------------------------------------
-- Leak policy
------------------------------------------------------------

/- Apply the leak policy to the report of a scope at a depth. -/
def applyPolicy
    (depth : Nat)
    (report : LeakReport) : Program n β LeakReport := do
  let ctx ← get
  match ctx.config.leakPolicy with
  | .ignore => pure report
  | .warn =>
      if ¬ report.IsClean then
        note (.scopeLeaked depth report)
      pure report
  | .fail =>
      if report.HasLeaks then
        throw (.leaked report)
      else
        if report.reclaimed ≠ [] then
          note (.scopeReclaimed depth report)
        pure report

------------------------------------------------------------
-- Ends of scopes
------------------------------------------------------------

/- Take the innermost scope off the stack. -/
def popFrame : Program n β (Frame n) := do
  let ctx ← get
  match ctx.frames with
  | [] => throw .noActiveScope
  | frame :: outer =>
      modify ({ · with frames := outer })
      pure frame

/-
  Close the innermost scope. A scope without a record owes
  nothing.
-/
def closeScope : Program n β LeakReport := do
  let frame ← popFrame
  let ctx ← get
  let depth := ctx.frames.length + 1
  match frame.tracker with
  | none => pure LeakReport.clean
  | some tracker =>
      let report := tracker.report
      match frame.device with
      | some device =>
          if ctx.config.releaseOnTeardown ∧ report.HasLeaks then
            let report ← reclaim device report
            applyPolicy depth report
          else
            applyPolicy depth report
      | none => applyPolicy depth report

/- End the innermost scope and answer with what leaked. -/
def finish : Program n β LeakReport :=
  closeScope

/-
  End the innermost scope without an answer. A failure is noted
  and goes no further.
-/
def dropScope : Program n β Unit := do
  match ← (closeScope (n := n) (β := β)).attempt with
  | .ok _ => pure ()
  | .error (.leaked report) => note (.droppedWithLeaks report)
  | .error cause => note (.teardownFailed cause)

/-
  Close the scope of a program that has ended with an outcome.
  The error of the program comes before any error of the end of
  the scope, which is then only noted.
-/
def concludeProgram
    (outcome : Except ProgramError α) : Program n β (α × LeakReport) := do
  let closing ← (finish (n := n) (β := β)).attempt
  match outcome, closing with
  | .ok value, .ok report => pure (value, report)
  | .ok _, .error e => throw e
  | .error e, .ok _ => throw e
  | .error e, .error leak =>
      note (.failedAndLeaked leak)
      throw e

/-
  Run an entry in a scope of its own. The scope is closed even
  if the entry fails.
-/
def runProgram
    (device : Fin n)
    (track : Bool)
    (entry : Program n β α) : Program n β (α × LeakReport) := do
  openScope (some device) track
  let outcome ← entry.attempt
  concludeProgram outcome

end Context

end QuantumRuntime

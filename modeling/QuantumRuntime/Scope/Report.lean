import QuantumRuntime.Handle

/-
  This file defines the report on the handles that were still
  live when a scope ended.

  Key definitions include:
    * `LeakReport`
    * `LeakReport.HasLeaks`
    * `LeakReport.IsClean`
    * `LeakReport.text`
-/

namespace QuantumRuntime

/-
  The qubits and results that a scope left live, and the
  handles that were released on its behalf.
-/
structure LeakReport where
  qubits : List QubitId
  results : List ResultId
  reclaimed : List Handle
deriving DecidableEq, Repr

namespace LeakReport

/- The report of a scope that owes nothing. -/
def clean : LeakReport :=
  { qubits := []
    results := []
    reclaimed := [] }

/- Some handle is still live. -/
def HasLeaks
    (report : LeakReport) : Prop :=
  report.qubits ≠ [] ∨ report.results ≠ []

instance
    (report : LeakReport) :
    Decidable report.HasLeaks := by
  unfold HasLeaks
  infer_instance

/- The program released everything itself. -/
def IsClean
    (report : LeakReport) : Prop :=
  ¬ report.HasLeaks ∧ report.reclaimed = []

instance
    (report : LeakReport) :
    Decidable report.IsClean := by
  unfold IsClean
  infer_instance

/- The names of the handles that are still live, qubits first. -/
def liveNames
    (report : LeakReport) : List String :=
  report.qubits.map QubitId.text ++ report.results.map ResultId.text

/- The text of a report. -/
def text
    (report : LeakReport) : String :=
  if report.IsClean then
    "no leaked handles"
  else
    let counts :=
      s!"{report.qubits.length} qubit(s) and {report.results.length} result(s) leaked"
    let names :=
      match report.liveNames with
      | [] => ""
      | live => ": " ++ String.intercalate ", " live
    let reclaimed :=
      match report.reclaimed with
      | [] => ""
      | _ => s!"; {report.reclaimed.length} reclaimed"
    counts ++ names ++ reclaimed

end LeakReport

end QuantumRuntime

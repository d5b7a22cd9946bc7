import QuantumRuntime.Scope.Report

/-
  This file defines the record of the handles that a scope has
  been given and has not released.

  Key definitions include:
    * `Tracker`
    * `Tracker.trackQubit`
    * `Tracker.removeQubit`
    * `Tracker.untrackQubit`
    * `Tracker.trackResult`
    * `Tracker.removeResult`
    * `Tracker.untrackResult`
    * `Tracker.report`
-/

namespace QuantumRuntime

/- The outstanding qubits and results, each in ascending order. -/
structure Tracker where
  qubits : Std.ExtTreeSet QubitId compare
  results : Std.ExtTreeSet ResultId compare

namespace Tracker

/- The record of a scope that owes nothing. -/
def empty : Tracker :=
  { qubits := ∅
    results := ∅ }

/- Record a qubit. -/
def trackQubit
    (q : QubitId)
    (tracker : Tracker) : Tracker :=
  { tracker with qubits := tracker.qubits.insert q }

/- Forget a qubit, and tell whether it was outstanding. -/
def removeQubit
    (q : QubitId)
    (tracker : Tracker) : Bool × Tracker :=
  (tracker.qubits.contains q,
    { tracker with qubits := tracker.qubits.erase q })

/- The record without a qubit. -/
def untrackQubit
    (q : QubitId)
    (tracker : Tracker) : Tracker :=
  (tracker.removeQubit q).2

/- Record a result. The constants need no release and are left out. -/
def trackResult
    (r : ResultId)
    (tracker : Tracker) : Tracker :=
  if r.IsConstant then
    tracker
  else
    { tracker with results := tracker.results.insert r }

/- Forget a result, and tell whether it was outstanding. -/
def removeResult
    (r : ResultId)
    (tracker : Tracker) : Bool × Tracker :=
  (tracker.results.contains r,
    { tracker with results := tracker.results.erase r })

/- The record without a result. -/
def untrackResult
    (r : ResultId)
    (tracker : Tracker) : Tracker :=
  (tracker.removeResult r).2

/- The number of outstanding handles. -/
def size
    (tracker : Tracker) : Nat :=
  tracker.qubits.size + tracker.results.size

/- Nothing is outstanding. -/
def IsEmpty
    (tracker : Tracker) : Prop :=
  tracker.size = 0

instance
    (tracker : Tracker) :
    Decidable tracker.IsEmpty := by
  unfold IsEmpty
  infer_instance

/- The report on the outstanding handles, in ascending order. -/
def report
    (tracker : Tracker) : LeakReport :=
  { qubits := tracker.qubits.toList
    results := tracker.results.toList
    reclaimed := [] }

end Tracker

end QuantumRuntime

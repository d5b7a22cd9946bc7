import Mathlib.Data.List.Chain
import Mathlib.Order.Bounds.Basic
import Mathlib.Order.MinMax
import QuantumRuntime.Proofs.Backend.Clients

/-
  This file defines which gates and measurements of a history
  depend on each other: a later one depends on an earlier one
  when they share a qubit. A chain of dependencies picks events
  of a history in their order, each of which depends on the one
  before. The longest chains are followed event by event.

  Key definitions include:
    * `Exchange.IsEvent`
    * `Exchange.Touches`
    * `Exchange.DependsOn`
    * `IsDependencyChain`
    * `chainLengths`
    * `chainLengthsAt`
    * `chainLengthsEndingIn`

  Key theorems include:
    * `isDependencyChain_concat_iff`
    * `isGreatest_chainLengthsAt_concat`
    * `isGreatest_chainLengths_concat`
    * `isGreatest_chainLengthsEndingIn`
-/

namespace QuantumRuntime

variable {R : Type}

------------------------------------------------------------
-- Events
------------------------------------------------------------

/- A request that acts on qubits: a gate or a measurement. -/
def Request.Acts : Request R → Prop
  | apply _ _ => True
  | applyControlled _ _ _ => True
  | measure _ _ => True
  | _ => False

namespace Exchange

/- An event is a gate or a measurement that was accepted. -/
def IsEvent
    (event : Exchange R) : Prop :=
  event.1.Acts ∧ event.2.isOk

/- An event touches its targets and its controls. -/
def Touches
    (event : Exchange R)
    (q : QubitId) : Prop :=
  event.IsEvent ∧ q ∈ event.1.qubits

/- A later event depends on an earlier one that shares a qubit. -/
def DependsOn
    (later earlier : Exchange R) : Prop :=
  ∃ q, earlier.Touches q ∧ later.Touches q

theorem not_isEvent_error
    (request : Request R)
    (e : BackendError) :
    ¬ IsEvent (request, .error e) := by
  rintro ⟨-, hAccepted⟩
  cases hAccepted

end Exchange

------------------------------------------------------------
-- Chains
------------------------------------------------------------

/-
  Some events of a history, in their order, each of which
  depends on the one before.
-/
structure IsDependencyChain
    (history chain : List (Exchange R)) : Prop where
  sublist : chain.Sublist history
  isEvent : ∀ event ∈ chain, event.IsEvent
  linked :
    chain.IsChain fun earlier later => later.DependsOn earlier

/- The lengths of the chains of a history. -/
def chainLengths
    (history : List (Exchange R)) : Set Nat :=
  { n | ∃ chain, IsDependencyChain history chain ∧
      chain.length = n }

/-
  The lengths of the chains whose last event touches a qubit,
  with that of the empty chain.
-/
def chainLengthsAt
    (history : List (Exchange R))
    (q : QubitId) : Set Nat :=
  { n | ∃ chain, IsDependencyChain history chain ∧
      (∀ last ∈ chain.getLast?, last.Touches q) ∧
      chain.length = n }

/- The lengths of the chains that end in an event after others. -/
def chainLengthsEndingIn
    (earlier : List (Exchange R))
    (event : Exchange R) : Set Nat :=
  { n | ∃ chain,
      IsDependencyChain (earlier ++ [event]) (chain ++ [event]) ∧
        chain.length + 1 = n }

theorem isDependencyChain_nil
    (history : List (Exchange R)) :
    IsDependencyChain history [] :=
  ⟨List.nil_sublist history, by simp, .nil⟩

/- The empty chain ends at every qubit. -/
theorem zero_mem_chainLengthsAt
    (history : List (Exchange R))
    (q : QubitId) :
    0 ∈ chainLengthsAt history q :=
  ⟨[], isDependencyChain_nil history, by simp, rfl⟩

/- A chain can be prolonged by an event that depends on its last. -/
theorem IsDependencyChain.concat
    {history chain : List (Exchange R)}
    {event : Exchange R}
    (hChain : IsDependencyChain history chain)
    (hEvent : event.IsEvent)
    (hLast : ∀ last ∈ chain.getLast?, event.DependsOn last) :
    IsDependencyChain (history ++ [event]) (chain ++ [event]) where
  sublist := hChain.sublist.append_right [event]
  isEvent := by
    intro other hMem
    rcases List.mem_append.mp hMem with hOld | hNew
    · exact hChain.isEvent other hOld
    · cases List.mem_singleton.mp hNew
      exact hEvent
  linked := by
    refine hChain.linked.append (.singleton event) ?_
    intro last hMem first hFirst
    cases Option.mem_some_iff.mp hFirst
    exact hLast last hMem

/- A chain of a shorter history is one of the longer history. -/
theorem IsDependencyChain.append_right
    {history chain : List (Exchange R)}
    (hChain : IsDependencyChain history chain)
    (later : List (Exchange R)) :
    IsDependencyChain (history ++ later) chain :=
  ⟨hChain.sublist.trans (List.sublist_append_left history later),
    hChain.isEvent, hChain.linked⟩

/-
  A chain of a history that goes on by one exchange is a chain
  from before, or one that the exchange prolongs.
-/
theorem isDependencyChain_concat_iff
    {history chain : List (Exchange R)}
    {event : Exchange R} :
    IsDependencyChain (history ++ [event]) chain ↔
      IsDependencyChain history chain ∨
        ∃ init, chain = init ++ [event] ∧
          IsDependencyChain history init ∧ event.IsEvent ∧
            ∀ last ∈ init.getLast?, event.DependsOn last := by
  constructor
  · rintro ⟨hSublist, hEvents, hLinked⟩
    rcases List.sublist_append_iff.mp hSublist with
      ⟨init, tail, rfl, hInit, hTail⟩
    rcases List.sublist_singleton.mp hTail with rfl | rfl
    · rw [List.append_nil] at hEvents hLinked ⊢
      exact .inl ⟨hInit, hEvents, hLinked⟩
    · rcases List.isChain_append.mp hLinked with
        ⟨hBefore, -, hLast⟩
      refine .inr ⟨init, rfl, ⟨hInit, ?_, hBefore⟩,
        hEvents event (by simp), ?_⟩
      · intro other hMem
        exact hEvents other (List.mem_append_left _ hMem)
      · intro last hMem
        exact hLast last hMem event rfl
  · rintro (hOld | ⟨init, rfl, hInit, hEvent, hLast⟩)
    · exact hOld.append_right [event]
    · exact hInit.concat hEvent hLast

------------------------------------------------------------
-- Longest chains
------------------------------------------------------------

section

variable {history : List (Exchange R)}
variable {event : Exchange R}
variable {q : QubitId}

/- What is no event prolongs no chain. -/
theorem chainLengths_concat_of_not_isEvent
    (hEvent : ¬ event.IsEvent) :
    chainLengths (history ++ [event]) = chainLengths history := by
  ext n
  refine exists_congr fun chain => and_congr_left fun _ => ?_
  rw [isDependencyChain_concat_iff, or_iff_left]
  rintro ⟨init, -, -, hIs, -⟩
  exact hEvent hIs

/- An event that does not touch a qubit prolongs no chain at it. -/
theorem chainLengthsAt_concat_of_not_touches
    (hTouches : ¬ event.Touches q) :
    chainLengthsAt (history ++ [event]) q =
      chainLengthsAt history q := by
  ext n
  refine exists_congr fun chain => and_congr_left ?_
  rintro ⟨hLast, -⟩
  rw [isDependencyChain_concat_iff, or_iff_left]
  rintro ⟨init, rfl, -, -, -⟩
  exact hTouches (hLast event (by simp))

/- Events that do not touch a qubit prolong no chain at it. -/
theorem chainLengthsAt_append_of_not_touches
    (later : List (Exchange R))
    (hTouches : ∀ event ∈ later, ¬ event.Touches q) :
    chainLengthsAt (history ++ later) q =
      chainLengthsAt history q := by
  induction later generalizing history with
  | nil => rw [List.append_nil]
  | cons event rest ih =>
      rcases List.forall_mem_cons.mp hTouches with ⟨hFirst, hRest⟩
      rw [← List.singleton_append, ← List.append_assoc, ih hRest,
        chainLengthsAt_concat_of_not_touches hFirst]

/- Only the empty chain ends at a qubit that nothing touched. -/
theorem isGreatest_chainLengthsAt_of_untouched
    (hTouches : ∀ event ∈ history, ¬ event.Touches q) :
    IsGreatest (chainLengthsAt history q) 0 := by
  refine ⟨zero_mem_chainLengthsAt history q, ?_⟩
  have hSame :
      chainLengthsAt ([] ++ history) q = chainLengthsAt [] q :=
    chainLengthsAt_append_of_not_touches history hTouches
  rw [List.nil_append] at hSame
  rw [hSame]
  rintro n ⟨chain, hChain, -, rfl⟩
  rw [List.sublist_nil.mp hChain.sublist]
  exact Nat.le_refl 0

/-
  The length of the longest chains at the qubits that an event
  touches, taken together.
-/
structure IsLatestAt
    (history : List (Exchange R))
    (event : Exchange R)
    (n : Nat) : Prop where
  le :
    ∀ q, event.Touches q → n ∈ upperBounds (chainLengthsAt history q)
  attained :
    ∃ q, event.Touches q ∧ n ∈ chainLengthsAt history q

/- What an event prolongs is no longer than the longest of these. -/
theorem IsLatestAt.length_le
    {n : Nat}
    (hLatest : IsLatestAt history event n)
    {init : List (Exchange R)}
    (hInit : IsDependencyChain history init)
    (hLast : ∀ last ∈ init.getLast?, event.DependsOn last) :
    init.length ≤ n := by
  cases hEnd : init.getLast? with
  | none =>
      rw [List.getLast?_eq_none_iff.mp hEnd]
      exact Nat.zero_le n
  | some last =>
      rcases hLast last hEnd with ⟨q, hOld, hNew⟩
      refine hLatest.le q hNew ⟨init, hInit, ?_, rfl⟩
      intro other hOther
      cases Option.mem_unique hOther hEnd
      exact hOld

/- An event makes one chain longer, and ends it at its qubits. -/
theorem IsLatestAt.exists_chain
    {n : Nat}
    (hLatest : IsLatestAt history event n) :
    ∃ chain,
      IsDependencyChain (history ++ [event]) (chain ++ [event]) ∧
        chain.length = n := by
  rcases hLatest.attained with
    ⟨q, hTouches, chain, hChain, hLast, hLength⟩
  refine ⟨chain, hChain.concat hTouches.1 ?_, hLength⟩
  intro last hMem
  exact ⟨q, hLast last hMem, hTouches⟩

/-
  At a qubit that an event touches, the longest chain becomes by
  one longer than all those at the qubits of the event.
-/
theorem isGreatest_chainLengthsAt_concat
    {n : Nat}
    (hLatest : IsLatestAt history event n)
    (hTouches : event.Touches q) :
    IsGreatest (chainLengthsAt (history ++ [event]) q) (n + 1) := by
  constructor
  · rcases hLatest.exists_chain with ⟨chain, hChain, hLength⟩
    refine ⟨chain ++ [event], hChain, ?_, by simp [hLength]⟩
    intro last hMem
    rw [List.getLast?_concat, Option.mem_some_iff] at hMem
    exact hMem ▸ hTouches
  · rintro _ ⟨chain, hChain, hLast, rfl⟩
    rcases isDependencyChain_concat_iff.mp hChain with
      hOld | ⟨init, rfl, hInit, -, hInitLast⟩
    · exact Nat.le_succ_of_le
        (hLatest.le q hTouches ⟨chain, hOld, hLast, rfl⟩)
    · rw [List.length_append, List.length_singleton]
      exact Nat.succ_le_succ (hLatest.length_le hInit hInitLast)

/- The longest chain of all is the one from before or the new one. -/
theorem isGreatest_chainLengths_concat
    {n depth : Nat}
    (hLatest : IsLatestAt history event n)
    (hDepth : IsGreatest (chainLengths history) depth) :
    IsGreatest (chainLengths (history ++ [event]))
      (max depth (n + 1)) := by
  constructor
  · rcases max_choice depth (n + 1) with hMax | hMax
    · rcases hDepth.1 with ⟨chain, hChain, hLength⟩
      exact ⟨chain, hChain.append_right [event],
        hLength.trans hMax.symm⟩
    · rcases hLatest.exists_chain with ⟨chain, hChain, hLength⟩
      exact ⟨chain ++ [event], hChain, by simp [hLength, hMax]⟩
  · rintro _ ⟨chain, hChain, rfl⟩
    rcases isDependencyChain_concat_iff.mp hChain with
      hOld | ⟨init, rfl, hInit, -, hLast⟩
    · exact le_max_of_le_left (hDepth.2 ⟨chain, hOld, rfl⟩)
    · rw [List.length_append, List.length_singleton]
      exact le_max_of_le_right
        (Nat.succ_le_succ (hLatest.length_le hInit hLast))

/-
  The longest chains at a qubit end in the last event that
  touched it.
-/
theorem isGreatest_chainLengthsEndingIn
    {earlier later : List (Exchange R)}
    {n : Nat}
    (hTouches : event.Touches q)
    (hLater : ∀ other ∈ later, ¬ other.Touches q)
    (hGreatest :
      IsGreatest (chainLengthsAt (earlier ++ event :: later) q) n) :
    IsGreatest (chainLengthsEndingIn earlier event) n := by
  have hSplit :
      earlier ++ event :: later = (earlier ++ [event]) ++ later := by
    simp
  rw [hSplit, chainLengthsAt_append_of_not_touches later hLater]
    at hGreatest
  have hBound :
      ∀ m ∈ chainLengthsEndingIn earlier event, m ≤ n := by
    rintro _ ⟨chain, hChain, rfl⟩
    refine hGreatest.2 ⟨chain ++ [event], hChain, ?_, by simp⟩
    intro last hMem
    rw [List.getLast?_concat, Option.mem_some_iff] at hMem
    exact hMem ▸ hTouches
  refine ⟨?_, hBound⟩
  rcases hGreatest.1 with ⟨chain, hChain, hLast, hLength⟩
  rcases isDependencyChain_concat_iff.mp hChain with
    hOld | ⟨init, rfl, -, -, -⟩
  · -- A longest chain cannot stop before the last event.
    have hLonger :
        chain.length + 1 ∈ chainLengthsEndingIn earlier event :=
      ⟨chain, hOld.concat hTouches.1
        fun last hMem => ⟨q, hLast last hMem, hTouches⟩, rfl⟩
    have hLe := hBound _ hLonger
    omega
  · refine ⟨init, hChain, ?_⟩
    rw [← hLength, List.length_append, List.length_singleton]

end

end QuantumRuntime

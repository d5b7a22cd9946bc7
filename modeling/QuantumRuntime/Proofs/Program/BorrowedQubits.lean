import QuantumRuntime.Proofs.Program.AllOrNothing
import QuantumRuntime.Proofs.Program.BalancedPrograms
import QuantumRuntime.Proofs.Program.ReleasedPrefix

/-
  This file proves that a program can borrow qubits. If its body
  gives back all else that it takes, then the whole program,
  which allocates the qubits and releases them in the end, gives
  back all that it takes. Every qubit from before finds its
  position or layer where it was, because the qubits that were
  lent come last in the order of allocation and leave no gap.

  Key definitions include:
    * `Allocation.withQubits`
    * `Builtin.HasRoomFor`
    * `Builtin.Lends`
    * `Builtin.KeepsOthers`

  Key theorems include:
    * `Builtin.exists_lends`
    * `Mount.Balanced.withQubits`
    * `Builtin.Lends.keepsQubits`
    * `Builtin.exists_withQubits`
-/

namespace QuantumRuntime

variable {R : Type} [Scalar R] {n : Nat} {β α : Type} [Backend R β]

/- Run a body on qubits that are allocated for it. -/
def Allocation.withQubits
    (count : Nat)
    (body : List QubitId → Program n β α) : Program n β α := do
  let qs ← allocateArray count
  let a ← body qs
  releaseArray qs
  pure a

------------------------------------------------------------
-- Room for qubits
------------------------------------------------------------

/- A simulator below its limit issues as many qubits as are left. -/
theorem FullState.issues
    {sim : FullState R}
    {count : Nat}
    (hRoom : sim.qubits.liveCount + count ≤ sim.maxQubits) :
    ∀ answer ∈
        (runRequests sim (List.replicate count .allocateQubit)).1,
      ∃ reply, answer = .ok reply := by
  induction count generalizing sim with
  | zero => simp
  | succ count ih =>
      have hLess : sim.qubits.liveCount < sim.maxQubits := by omega
      have hFirst :
          (Request.allocateQubit (R := R)).run.perform sim =
            (.ok (.qubit sim.nextQubit), sim.allocated) :=
        Request.run_allocateQubit
          (perform_allocateQubit_of_room hLess)
      have hCount :
          sim.allocated.qubits.liveCount =
            sim.qubits.liveCount + 1 :=
        HandleTable.liveCount_insert (K := QubitId) _ _
      rw [List.replicate_succ, runRequests_cons, hFirst]
      refine List.forall_mem_cons.mpr ⟨⟨_, rfl⟩, ih ?_⟩
      rw [hCount]
      show _ ≤ sim.maxQubits
      omega

namespace Builtin

/-
  A backend that takes every gate, the simulator of the full
  state or the tracer, has room for some further qubits.
-/
def HasRoomFor
    (count : Nat) : Builtin R → Prop
  | fullState sim =>
      sim.qubits.liveCount + count ≤ sim.maxQubits
  | tracer _ => True
  | _ => False

/- A backend has issued some qubits and is in a new state. -/
structure Lends
    (b : Builtin R)
    (qs : List QubitId)
    (lent : Builtin R) : Prop where
  run_eq :
    runRequests b (List.replicate qs.length .allocateQubit) =
      (issuing qs, lent)

variable {b lent used : Builtin R} {qs : List QubitId}

/- A backend lends as many qubits as it has room for. -/
theorem exists_lends
    {count : Nat}
    (hRoom : b.HasRoomFor count) :
    ∃ qs lent, qs.length = count ∧ b.Lends qs lent := by
  have hAccepted :
      ∀ answer ∈
          (runRequests b (List.replicate count .allocateQubit)).1,
        ∃ reply, answer = .ok reply := by
    cases b with
    | fullState sim =>
        rw [fullState_morphism.runRequests_eq]
        exact FullState.issues hRoom
    | tracer t => exact issues (.inr rfl) count
    | _ => exact hRoom.elim
  rcases issued_or_refused R b count with
    ⟨qs, rfl, hIssued⟩ | ⟨qs, e, remaining, rfl, hRefused⟩
  · exact ⟨qs, _, rfl, ⟨Prod.ext hIssued rfl⟩⟩
  · -- The refused request is one of those that are accepted.
    have hMem :
        Except.error e ∈
          (runRequests b
            (List.replicate (qs.length + 1 + remaining)
              .allocateQubit)).1 := by
      rw [List.replicate_add, runRequests_append, hRefused]
      simp
    rcases hAccepted _ hMem with ⟨reply, hReply⟩
    cases hReply

namespace Lends

theorem reachable
    (hLends : b.Lends qs lent)
    (hReachable : b.Reachable) :
    lent.Reachable := by
  have hRun :=
    hReachable.run (List.replicate qs.length .allocateQubit)
  rwa [hLends.run_eq] at hRun

/- The qubits that are lent are new, distinct and live. -/
theorem holds_iff
    (hLends : b.Lends qs lent)
    (hReachable : b.Reachable) :
    (∀ handle,
      lent.Holds handle ↔
        (∃ q ∈ qs, handle = .qubit q) ∨ b.Holds handle) ∧
      qs.Nodup ∧
      ∀ q ∈ qs, ¬ b.Holds (.qubit q) := by
  rcases bookkeeping.holds_issued hReachable.sound
      (congrArg Prod.fst hLends.run_eq) with
    ⟨-, hHolds, hNodup, hNew⟩
  rw [hLends.run_eq] at hHolds
  simp only [holds_bookkeeping_iff] at hHolds hNew
  exact ⟨hHolds, hNodup, hNew⟩

theorem nodup
    (hLends : b.Lends qs lent)
    (hReachable : b.Reachable) :
    qs.Nodup :=
  (hLends.holds_iff hReachable).2.1

theorem live
    (hLends : b.Lends qs lent)
    (hReachable : b.Reachable)
    {q : QubitId}
    (hMem : q ∈ qs) :
    lent.Holds (.qubit q) :=
  ((hLends.holds_iff hReachable).1 _).mpr (.inl ⟨q, hMem, rfl⟩)

theorem kind_eq
    (hLends : b.Lends qs lent) :
    lent.kind = b.kind := by
  have hKind :=
    kind_runRequests (List.replicate qs.length .allocateQubit) b
  rwa [hLends.run_eq] at hKind

/-
  When a backend in which the same handles are live takes the
  qubits back, all is live again that was.
-/
theorem returned
    (hLends : b.Lends qs lent)
    (hReachable : b.Reachable)
    (hUsed : used.Reachable)
    (hSame : ∀ handle, used.Holds handle ↔ lent.Holds handle) :
    let run := runRequests used (qs.map .releaseQubit)
    run.1 = accepting qs ∧
      ∀ handle, run.2.Holds handle ↔ b.Holds handle := by
  rcases hLends.holds_iff hReachable with ⟨hHolds, hNodup, hNew⟩
  rcases hUsed.accepts_releases hNodup
      (fun q hMem =>
        (hSame _).mpr (hLends.live hReachable hMem)) with
    ⟨hAccepted, hAfter⟩
  refine ⟨hAccepted, fun handle => ?_⟩
  rw [hAfter, hSame, hHolds]
  exact Handle.taken_and_given_back_iff hNew handle

end Lends

end Builtin

------------------------------------------------------------
-- Programs that borrow qubits
------------------------------------------------------------

namespace Mount

variable {mount : Mount R n β}
variable {b lent used : Builtin R} {qs : List QubitId}
variable {ctx : Context n β}

/- A mounted backend lends its qubits to a program. -/
theorem Shows.perform_allocateArray
    (hShows : mount.Shows b ctx)
    (hLends : b.Lends qs lent) :
    (Allocation.allocateArray qs.length).perform ctx =
        (.ok qs,
          ctx.ran mount.device
            (List.replicate qs.length .allocateQubit)) ∧
      mount.Shows lent
        (ctx.ran mount.device
          (List.replicate qs.length .allocateQubit)) := by
  constructor
  · apply Allocation.perform_allocateMore_of_issued
      hShows.current_eq []
    rw [hShows.backend_eq, mount.morphism.runRequests_eq]
    exact congrArg Prod.fst hLends.run_eq
  · have hThere :=
      hShows.ran (List.replicate qs.length .allocateQubit)
    rwa [hLends.run_eq] at hThere

/-
  A program that borrows qubits is balanced if its body is: the
  qubits are forgotten that were recorded.
-/
theorem Balanced.withQubits
    (hReachable : b.Reachable)
    (hLends : b.Lends qs lent)
    {body : List QubitId → Program n β α}
    {a : α}
    {requests : List (Request R)}
    (hBody : mount.Balanced (body qs) lent a requests used) :
    mount.Balanced (Allocation.withQubits qs.length body) b a
      (List.replicate qs.length .allocateQubit ++
        (requests ++ qs.map .releaseQubit))
      (runRequests used (qs.map .releaseQubit)).2 := by
  have hLent := hLends.reachable hReachable
  rcases hLends.returned hReachable (hBody.reachable hLent)
      hBody.holds_iff with
    ⟨hAccepted, hHolds⟩
  refine ⟨fun ctx hShows => ?_, ?_, hHolds, fun tracker hLive => ?_⟩
  · rcases hShows.perform_allocateArray hLends with
      ⟨hAllocate, hThere⟩
    have hUsed := hBody.shows_ran hThere
    have hRelease :=
      Allocation.perform_releaseArray_of_accepted
        hUsed.current_eq
        (by
          rw [hUsed.backend_eq, mount.morphism.runRequests_eq,
            hAccepted])
    rw [Allocation.withQubits, Action.perform_bind, hAllocate]
    dsimp only
    rw [Action.perform_bind, hBody.perform_eq _ hThere]
    dsimp only
    rw [Action.perform_bind, hRelease, Context.ran_append,
      Context.ran_append]
    rfl
  · rw [runRequests_append, runRequests_append,
      hLends.run_eq, hBody.run_eq]
  · rcases hLends.holds_iff hReachable with ⟨hLentHolds, -, hNew⟩
    have hBorrowed :
        (tracker.trackQubits qs).followAll
            (exchangesOf lent requests) =
          tracker.trackQubits qs := by
      apply hBody.follow_eq
      intro handle hTracked
      rw [Tracker.holds_trackQubits] at hTracked
      exact (hLentHolds handle).mpr
        (hTracked.imp_right (hLive handle))
    rw [exchangesOf_append, exchangesOf_append,
      Tracker.followAll_append, Tracker.followAll_append,
      hLends.run_eq, hBody.run_eq]
    have hFirst :
        tracker.followAll
            (exchangesOf b
              (List.replicate qs.length .allocateQubit)) =
          tracker.trackQubits qs := by
      rw [exchangesOf, hLends.run_eq,
        zip_issuing, Tracker.followAll_issuing]
    have hLast (tracker : Tracker) :
        tracker.followAll
            (exchangesOf used (qs.map .releaseQubit)) =
          tracker.untrackQubits qs := by
      rw [exchangesOf, hAccepted, zip_accepting,
        Tracker.followAll_accepting]
    rw [hFirst, hBorrowed, hLast]
    exact Tracker.untrackQubits_trackQubits fun q hMem hTracked =>
      hNew q hMem (hLive _ hTracked)

end Mount

------------------------------------------------------------
-- Qubits that stay in place
------------------------------------------------------------

namespace FullState

variable {sim lent used : FullState R} {order : List QubitId}
variable {qs : List QubitId}

omit [Scalar R] in
/- The same positions come from the same order. -/
theorem Dense.order_eq
    {order' : List QubitId}
    (hLent : lent.Dense order)
    (hUsed : used.Dense order')
    (hSame : used.qubits = lent.qubits) :
    order' = order := by
  apply List.ext_getElem?
  intro position
  apply Option.ext
  intro q
  rw [← hLent.position_iff, ← hUsed.position_iff, hSame]

/- Qubits that are lent come last in the order. -/
theorem Dense.issued
    (hDense : sim.Dense order)
    (hIssued :
      runRequests sim (List.replicate qs.length .allocateQubit) =
        (issuing qs, lent)) :
    lent.Dense (order ++ qs) := by
  have hRun :=
    hDense.run (List.replicate qs.length .allocateQubit)
  have hOrder := reorderAll_issuing (R := R) order qs [] []
  rw [List.append_nil, List.append_nil] at hOrder
  rw [hIssued] at hRun
  rwa [hOrder] at hRun

/- So no position changes when they are given back. -/
theorem Dense.returned
    (hDense : sim.Dense order)
    (hIssued :
      runRequests sim (List.replicate qs.length .allocateQubit) =
        (issuing qs, lent))
    {order' : List QubitId}
    (hUsed : used.Dense order')
    (hSame : used.qubits = lent.qubits)
    (hAccepted :
      (runRequests used (qs.map .releaseQubit)).1 = accepting qs)
    (q : QubitId) :
    (runRequests used (qs.map .releaseQubit)).2.qubits.get? q =
      sim.qubits.get? q := by
  have hLent := hDense.issued hIssued
  cases hLent.order_eq hUsed hSame
  have hLast := hUsed.run (qs.map .releaseQubit)
  rw [reorderAll_releases hLent.nodup (by simp)
    (by
      intro answer hMem
      rw [hAccepted] at hMem
      exact accepted_of_mem_accepting hMem)] at hLast
  exact Option.ext fun position =>
    (hLast.position_iff q position).trans
      (hDense.position_iff q position).symm

end FullState

namespace Tracer

variable {t : Tracer R} {qs : List QubitId} {q : QubitId}

/- Allocations move no qubit but those that they issue. -/
theorem get?_issued
    (hSound : bookkeeping.Sound t)
    {lent : Tracer R}
    (hIssued :
      runRequests t (List.replicate qs.length .allocateQubit) =
        (issuing qs, lent))
    (hOther : q ∉ qs) :
    lent.qubits.get? q = t.qubits.get? q := by
  induction qs generalizing t with
  | nil =>
      cases hIssued
      rfl
  | cons first rest ih =>
      rw [List.mem_cons, not_or] at hOther
      rw [List.length_cons, List.replicate_succ, runRequests_cons]
        at hIssued
      rcases Prod.mk.inj hIssued with ⟨hAnswers, hAfter⟩
      rcases List.cons.inj hAnswers with ⟨hFirst, hRest⟩
      have hThere :=
        ih (bookkeeping.sound_run .allocateQubit t hSound)
          (Prod.ext hRest hAfter) hOther.2
      have hCoherent : t.qubits.Coherent :=
        (HandleTable.coherent_shape_iff _).mp hSound.qubits
      have hNew : (t.qubits.insert 0).1 = first := by
        cases hFirst
        rfl
      refine hThere.trans ?_
      refine (hCoherent.get?_insert 0 q).trans (if_neg ?_)
      rw [hNew]
      exact hOther.1

/- Releases move no qubit but those that they name. -/
theorem get?_released
    (hOther : q ∉ qs) :
    (runRequests t (qs.map .releaseQubit)).2.qubits.get? q =
      t.qubits.get? q := by
  induction qs generalizing t with
  | nil => rfl
  | cons first rest ih =>
      rw [List.mem_cons, not_or] at hOther
      rw [List.map_cons, runRequests_cons]
      refine (ih hOther.2).trans ?_
      cases hKey : t.qubits.get? first with
      | none =>
          rw [Request.run_releaseQubit
            (perform_releaseQubit_of_dead hKey)]
      | some layer =>
          rw [Request.run_releaseQubit
            (perform_releaseQubit_of_live hKey)]
          dsimp only
          rw [HandleTable.get?_without
            (HandleTable.issued_of_get?_eq_some _ hKey),
            if_neg hOther.1]

end Tracer

namespace Builtin

/-
  A program has used some qubits of a backend that takes every
  gate. On the full state every qubit has kept its position, and
  in the tracer every other one its layer.
-/
inductive KeepsOthers
    (qs : List QubitId) : Builtin R → Builtin R → Prop
  | fullState
      (sim after : FullState R)
      (hQubits : after.qubits = sim.qubits) :
      KeepsOthers qs (.fullState sim) (.fullState after)
  | tracer
      (t after : Tracer R)
      (hLayer :
        ∀ q, q ∉ qs → after.qubits.get? q = t.qubits.get? q) :
      KeepsOthers qs (.tracer t) (.tracer after)

variable {b lent used : Builtin R} {qs : List QubitId}

/-
  When the qubits that were lent are given back, every other
  qubit is as it was.
-/
theorem Lends.keepsQubits
    (hLends : b.Lends qs lent)
    (hReachable : b.Reachable)
    (hUsed : used.Reachable)
    (hSame : ∀ handle, used.Holds handle ↔ lent.Holds handle)
    (hOthers : lent.KeepsOthers qs used) :
    b.KeepsQubits
      (runRequests used (qs.map .releaseQubit)).2 := by
  rcases hLends.returned hReachable hUsed hSame with
    ⟨hAccepted, hHolds⟩
  have hRun := hLends.run_eq
  have hKind := hLends.kind_eq
  cases hOthers with
  | fullState lent used hQubits =>
      cases b with
      | fullState sim =>
          rw [fullState_morphism.runRequests_eq] at hRun
          rw [fullState_morphism.runRequests_eq] at hAccepted ⊢
          rcases Prod.mk.inj hRun with ⟨hIssued, hLent⟩
          rcases hReachable.dense rfl with ⟨order, hDense⟩
          rcases hUsed.dense rfl with ⟨order', hDense'⟩
          exact .fullState sim _
            (hDense.returned
              (Prod.ext hIssued (fullState.inj hLent)) hDense'
              hQubits hAccepted)
      | _ => cases hKind
  | tracer lent used hLayer =>
      cases b with
      | tracer t =>
          rw [tracer_morphism.runRequests_eq] at hRun hHolds ⊢
          rcases Prod.mk.inj hRun with ⟨hIssued, hLent⟩
          refine .tracer t _ fun q => ?_
          by_cases hMem : q ∈ qs
          · -- The qubit was lent, and is dead before and after.
            have hBefore : ¬ t.qubits.Live q :=
              (hLends.holds_iff hReachable).2.2 q hMem
            have hAfter := mt (hHolds (.qubit q)).mp hBefore
            rw [Option.not_isSome_iff_eq_none.mp hAfter,
              Option.not_isSome_iff_eq_none.mp hBefore]
          · rw [Tracer.get?_released hMem, hLayer q hMem]
            exact Tracer.get?_issued hReachable.sound
              (Prod.ext hIssued (tracer.inj hLent)) hMem
      | _ => cases hKind

/-
  A body that uses no qubits but those that it is lent makes a
  program after which every qubit is as it was.
-/
theorem exists_withQubits
    (mount : Mount R n β)
    (hReachable : b.Reachable)
    {count : Nat}
    (hRoom : b.HasRoomFor count)
    {body : List QubitId → Program n β α}
    {Answers : α → Prop}
    (hBody :
      ∀ qs lent, qs.length = count → b.Lends qs lent →
        ∃ a requests used,
          mount.Balanced (body qs) lent a requests used ∧
            lent.KeepsOthers qs used ∧
            Answers a) :
    ∃ a requests last,
      mount.Balanced (Allocation.withQubits count body) b a
          requests last ∧
        b.KeepsQubits last ∧
        Answers a := by
  rcases exists_lends hRoom with ⟨qs, lent, rfl, hLends⟩
  rcases hBody qs lent rfl hLends with
    ⟨a, requests, used, hBalanced, hOthers, hAnswer⟩
  have hUsed :=
    hBalanced.reachable (hLends.reachable hReachable)
  exact ⟨a, _, _, hBalanced.withQubits hReachable hLends,
    hLends.keepsQubits hReachable hUsed hBalanced.holds_iff
      hOthers,
    hAnswer⟩

end Builtin

end QuantumRuntime

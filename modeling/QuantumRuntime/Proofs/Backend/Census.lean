import QuantumRuntime.Proofs.Backend.Holdings

/-
  This file defines the census of a history: which qubits the
  exchanges with a backend say have been issued, and which of
  them are live. A census knows nothing of tables. A backend
  whose tables change by steps of holdings agrees with the
  census of what passed between it and its program.

  Key definitions include:
    * `Census`
    * `Census.ofHistory`
    * `Census.Agrees`

  Key theorems include:
    * `Census.Agrees.step`
    * `Census.Agrees.length_live`
-/

namespace QuantumRuntime

variable {R : Type}

------------------------------------------------------------
-- Counting
------------------------------------------------------------

/- The qubits that were ever issued and those that are live. -/
structure Census where
  issued : List QubitId
  live : List QubitId
deriving DecidableEq, Repr

namespace Census

/- The census before anything has been issued. -/
def start : Census :=
  { issued := []
    live := [] }

/-
  The census after one more exchange. Only an allocation and a
  release that are accepted count.
-/
def count
    (census : Census) : Exchange R → Census
  | (.allocateQubit, .ok (.qubit q)) =>
      { issued := q :: census.issued
        live := q :: census.live }
  | (.releaseQubit q, .ok _) =>
      { census with live := census.live.filter (· ≠ q) }
  | _ => census

/- The census of a history. -/
def ofHistory
    (history : List (Exchange R)) : Census :=
  history.foldl count start

@[simp] theorem ofHistory_nil :
    ofHistory ([] : List (Exchange R)) = start :=
  rfl

@[simp] theorem ofHistory_concat
    (history : List (Exchange R))
    (event : Exchange R) :
    ofHistory (history ++ [event]) =
      (ofHistory history).count event := by
  simp [ofHistory]

/- A refusal changes no census. -/
@[simp] theorem count_error
    (census : Census)
    (request : Request R)
    (e : BackendError) :
    census.count (request, .error e) = census := by
  cases request <;> rfl

/- Neither does a request that keeps all handles. -/
theorem count_of_keepsHandles
    (census : Census)
    {request : Request R}
    (hKeeps : request.KeepsHandles)
    (answer : Except BackendError Reply) :
    census.count (request, answer) = census := by
  cases request with
  | allocateQubit => exact hKeeps.elim
  | releaseQubit q => exact hKeeps.elim
  | _ => rfl

/- Only an allocation makes another qubit live. -/
theorem mem_live_of_count
    {census : Census}
    {request : Request R}
    {reply : Reply}
    (hReply : ∀ q, reply ≠ .qubit q)
    {q : QubitId}
    (hMem : q ∈ (census.count (request, .ok reply)).live) :
    q ∈ census.live := by
  cases request with
  | allocateQubit =>
      cases reply with
      | qubit q => exact absurd rfl (hReply q)
      | _ => exact hMem
  | releaseQubit old => exact List.mem_of_mem_filter hMem
  | _ => exact hMem

------------------------------------------------------------
-- Agreement
------------------------------------------------------------

/- A table has issued and keeps live what a census lists. -/
structure Agrees
    {V : Type}
    (census : Census)
    (qubits : HandleTable QubitId V) : Prop where
  mem_issued_iff :
    ∀ q, q ∈ census.issued ↔ qubits.Issued q
  mem_live_iff :
    ∀ q, q ∈ census.live ↔ qubits.Live q

/- Only the shape of a table matters. -/
theorem agrees_shape_iff
    {V : Type}
    (census : Census)
    (qubits : HandleTable QubitId V) :
    census.Agrees qubits.shape ↔ census.Agrees qubits := by
  constructor
  · rintro ⟨hIssued, hLive⟩
    exact
      ⟨fun q => (hIssued q).trans (qubits.issued_shape_iff q),
        fun q => (hLive q).trans (qubits.live_shape_iff q)⟩
  · rintro ⟨hIssued, hLive⟩
    exact
      ⟨fun q => (hIssued q).trans (qubits.issued_shape_iff q).symm,
        fun q => (hLive q).trans (qubits.live_shape_iff q).symm⟩

/- A table that has issued nothing agrees with the first census. -/
theorem agrees_start
    {V : Type}
    (recycle : Bool) :
    start.Agrees (HandleTable.make recycle : HandleTable QubitId V) := by
  have hGet := HandleTable.get?_make
    (K := QubitId) (V := V) recycle 0
  rw [HandleTable.withBase_zero_make] at hGet
  constructor
  · intro q
    refine iff_of_false List.not_mem_nil ?_
    cases recycle <;>
      simp [HandleTable.Issued, HandleTable.slotCount,
        HandleTable.make, HandleTable.empty, HandleTable.recycling]
  · intro q
    refine iff_of_false List.not_mem_nil ?_
    simp [HandleTable.Live, hGet]

/-
  Every step of the tables is followed by the census: it counts
  the exchange, and they agree again.
-/
theorem Agrees.step
    {census : Census}
    {holdings after : Holdings}
    {request : Request R}
    {answer : Except BackendError Reply}
    (hAgrees : census.Agrees holdings.qubits)
    (hCoherent : holdings.Coherent)
    (hStep : holdings.Step request answer after) :
    (census.count (request, answer)).Agrees after.qubits := by
  cases hStep with
  | refused request e =>
      rw [count_error]
      exact hAgrees
  | allocated =>
      constructor
      · intro q
        rw [hCoherent.qubits.issued_insert_iff,
          ← hAgrees.mem_issued_iff]
        exact List.mem_cons
      · intro q
        rw [hCoherent.qubits.live_insert_iff,
          ← hAgrees.mem_live_iff]
        exact List.mem_cons
  | released q hLive =>
      constructor
      · intro other
        rw [HandleTable.issued_without_iff]
        exact hAgrees.mem_issued_iff other
      · intro other
        rw [HandleTable.live_without_iff hLive,
          ← hAgrees.mem_live_iff]
        simp [count, and_comm]
  | kept request reply hKeeps =>
      rw [count_of_keepsHandles census hKeeps]
      exact hAgrees
  | _ => exact hAgrees

/- A qubit that is issued is not listed as live yet. -/
theorem Agrees.nodup_live
    {census : Census}
    {holdings after : Holdings}
    {request : Request R}
    {answer : Except BackendError Reply}
    (hAgrees : census.Agrees holdings.qubits)
    (hCoherent : holdings.Coherent)
    (hStep : holdings.Step request answer after)
    (hNodup : census.live.Nodup) :
    (census.count (request, answer)).live.Nodup := by
  cases hStep with
  | refused request e =>
      rw [count_error]
      exact hNodup
  | allocated =>
      refine List.nodup_cons.mpr ⟨?_, hNodup⟩
      rw [hAgrees.mem_live_iff, HandleTable.Live,
        hCoherent.qubits.get?_insert_fst]
      exact Bool.false_ne_true
  | released q hLive => exact hNodup.filter _
  | kept request reply hKeeps =>
      rw [count_of_keepsHandles census hKeeps]
      exact hNodup
  | _ => exact hNodup

/- A table counts the qubits that a census lists once each. -/
theorem Agrees.length_live
    {V : Type}
    {census : Census}
    {qubits : HandleTable QubitId V}
    (hAgrees : census.Agrees qubits)
    (hCoherent : qubits.Coherent)
    (hNodup : census.live.Nodup) :
    census.live.length = qubits.liveCount := by
  have hListed : (qubits.liveHandles : List QubitId).Nodup := by
    refine qubits.pairwise_liveHandles.imp ?_
    intro q₁ q₂ hLt hEq
    exact absurd (congrArg HandleKey.raw hEq) (Nat.ne_of_lt hLt)
  have hPerm : census.live.Perm qubits.liveHandles := by
    refine (List.perm_ext_iff_of_nodup hNodup hListed).mpr fun q => ?_
    rw [hAgrees.mem_live_iff, HandleTable.mem_liveHandles_iff]
  rw [hPerm.length_eq, hCoherent.length_liveHandles]

end Census

end QuantumRuntime

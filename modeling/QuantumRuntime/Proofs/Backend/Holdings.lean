import QuantumRuntime.Proofs.Backend.Exchanges
import QuantumRuntime.Proofs.HandleTable.Shape
import Mathlib.Tactic.Tauto

/-
  This file describes backends that keep account of their
  handles in a table of qubits and a table of results. What a
  request can do to the two tables is said once, and from it
  follows which handles a backend holds after any exchange and
  that a backend releases all that it holds.

  Key definitions include:
    * `Holdings`
    * `Holdings.Step`
    * `Bookkeeping`

  Key theorems include:
    * `Holdings.Step.coherent`
    * `Holdings.Step.holds_iff`
    * `Holdings.Step.not_holds_of_creates`
    * `Bookkeeping.releases`
-/

namespace QuantumRuntime

------------------------------------------------------------
-- Live keys of tables
------------------------------------------------------------

namespace HandleTable

variable {K V : Type} [HandleKey K] [DecidableEq K]

theorem Coherent.live_insert_iff
    {table : HandleTable K V}
    (hTable : table.Coherent)
    (value : V)
    (key : K) :
    (table.insert value).2.Live key ↔
      key = (table.insert value).1 ∨ table.Live key := by
  unfold Live
  rw [hTable.get?_insert]
  by_cases hKey : key = (table.insert value).1 <;> simp [hKey]

theorem live_without_iff
    {table : HandleTable K V}
    {key : K}
    (hLive : table.Live key)
    (other : K) :
    (table.without key).Live other ↔
      other ≠ key ∧ table.Live other := by
  rcases Option.isSome_iff_exists.mp hLive with ⟨value, hValue⟩
  unfold Live
  rw [get?_without (issued_of_get?_eq_some table hValue)]
  by_cases hKey : other = key <;> simp [hKey]

omit [DecidableEq K] in
@[simp] theorem live_shape_iff
    (table : HandleTable K V)
    (key : K) :
    table.shape.Live key ↔ table.Live key := by
  unfold Live
  rw [get?_shape, Option.isSome_map]

omit [DecidableEq K] in
/- A table has no live key below its first raw value. -/
theorem base_le_of_live
    {table : HandleTable K V}
    {key : K}
    (hLive : table.Live key) :
    table.base ≤ HandleKey.raw key := by
  rcases Option.isSome_iff_exists.mp hLive with ⟨value, hValue⟩
  exact (issued_of_get?_eq_some table hValue).1

omit [DecidableEq K] in
/- A table that has issued nothing has no live key. -/
theorem not_live_empty
    (base : Nat)
    (key : K) :
    ¬ ((empty : HandleTable K V).withBase base).Live key := by
  have hNone :
      ((empty : HandleTable K V).withBase base).get? key = none :=
    get?_make false base key
  unfold Live
  rw [hNone]
  exact Bool.false_ne_true

end HandleTable

------------------------------------------------------------
-- Holdings
------------------------------------------------------------

/- The tables of a backend without the values in them. -/
structure Holdings where
  qubits : HandleTable QubitId Unit
  results : HandleTable ResultId Unit

namespace Holdings

/- A handle of either kind is live. -/
def Holds
    (holdings : Holdings) : Handle → Prop
  | .qubit q => holdings.qubits.Live q
  | .result r => holdings.results.Live r

/- Both tables are coherent, and constants are no results. -/
structure Coherent
    (holdings : Holdings) : Prop where
  qubits : holdings.qubits.Coherent
  results : holdings.results.Coherent
  base_eq : holdings.results.base = ResultId.firstDynamic

/-
  What a request can answer and do to the tables. A result that
  is released without being live is a constant, or one of a
  backend that keeps no results.
-/
inductive Step {R : Type}
    (holdings : Holdings) :
    Request R → Except BackendError Reply → Holdings → Prop
  | refused
      (request : Request R)
      (e : BackendError) :
      Step holdings request (.error e) holdings
  | allocated :
      Step holdings .allocateQubit
        (.ok (.qubit (holdings.qubits.insert ()).1))
        { holdings with qubits := (holdings.qubits.insert ()).2 }
  | released
      (q : QubitId)
      (hLive : holdings.qubits.Live q) :
      Step holdings (.releaseQubit q) (.ok .done)
        { holdings with qubits := holdings.qubits.without q }
  | measured
      (bases : List Pauli)
      (targets : List QubitId) :
      Step holdings (.measure bases targets)
        (.ok (.result (holdings.results.insert ()).1))
        { holdings with results := (holdings.results.insert ()).2 }
  | constantGiven
      (bases : List Pauli)
      (targets : List QubitId)
      (r : ResultId)
      (hConstant : r.IsConstant) :
      Step holdings (.measure bases targets)
        (.ok (.result r)) holdings
  | resultReleased
      (r : ResultId)
      (hLive : holdings.results.Live r) :
      Step holdings (.releaseResult r) (.ok .done)
        { holdings with results := holdings.results.without r }
  | resultKept
      (r : ResultId)
      (hDead : ¬ holdings.results.Live r) :
      Step holdings (.releaseResult r) (.ok .done) holdings
  | kept
      (request : Request R)
      (reply : Reply)
      (hKeeps : request.KeepsHandles) :
      Step holdings request (.ok reply) holdings

variable {R : Type}
variable {holdings after : Holdings}
variable {request : Request R}
variable {answer : Except BackendError Reply}

theorem Coherent.holds_allocated_iff
    (hCoherent : holdings.Coherent)
    (handle : Handle) :
    ({ holdings with qubits := (holdings.qubits.insert ()).2 } :
        Holdings).Holds handle ↔
      handle = .qubit (holdings.qubits.insert ()).1 ∨
        holdings.Holds handle := by
  cases handle with
  | qubit q =>
      simpa [Holds] using hCoherent.qubits.live_insert_iff () q
  | result r => simp [Holds]

theorem Coherent.holds_measured_iff
    (hCoherent : holdings.Coherent)
    (handle : Handle) :
    ({ holdings with results := (holdings.results.insert ()).2 } :
        Holdings).Holds handle ↔
      handle = .result (holdings.results.insert ()).1 ∨
        holdings.Holds handle := by
  cases handle with
  | qubit q => simp [Holds]
  | result r =>
      simpa [Holds] using hCoherent.results.live_insert_iff () r

theorem holds_qubitReleased_iff
    {q : QubitId}
    (hLive : holdings.qubits.Live q)
    (handle : Handle) :
    ({ holdings with qubits := holdings.qubits.without q } :
        Holdings).Holds handle ↔
      handle ≠ .qubit q ∧ holdings.Holds handle := by
  cases handle with
  | qubit other =>
      simpa [Holds] using HandleTable.live_without_iff hLive other
  | result r => simp [Holds]

theorem holds_resultReleased_iff
    {r : ResultId}
    (hLive : holdings.results.Live r)
    (handle : Handle) :
    ({ holdings with results := holdings.results.without r } :
        Holdings).Holds handle ↔
      handle ≠ .result r ∧ holdings.Holds handle := by
  cases handle with
  | qubit q => simp [Holds]
  | result other =>
      simpa [Holds] using HandleTable.live_without_iff hLive other

/- Constants are never held. -/
theorem Coherent.not_isConstant
    (hCoherent : holdings.Coherent)
    {handle : Handle}
    (hHolds : holdings.Holds handle) :
    ¬ handle.IsConstant := by
  cases handle with
  | qubit q => exact not_false
  | result r =>
      have hBase := HandleTable.base_le_of_live hHolds
      rw [hCoherent.base_eq] at hBase
      exact Nat.not_lt.mpr hBase

namespace Step

/- Every request keeps the tables coherent. -/
theorem coherent
    (hCoherent : holdings.Coherent)
    (hStep : holdings.Step request answer after) :
    after.Coherent := by
  cases hStep with
  | allocated =>
      exact ⟨hCoherent.qubits.insert (), hCoherent.results,
        hCoherent.base_eq⟩
  | released q hLive =>
      rcases Option.isSome_iff_exists.mp hLive with ⟨_, hValue⟩
      exact ⟨hCoherent.qubits.without hValue, hCoherent.results,
        hCoherent.base_eq⟩
  | measured bases targets =>
      exact ⟨hCoherent.qubits, hCoherent.results.insert (),
        (HandleTable.base_insert _ _).trans hCoherent.base_eq⟩
  | resultReleased r hLive =>
      rcases Option.isSome_iff_exists.mp hLive with ⟨_, hValue⟩
      exact ⟨hCoherent.qubits, hCoherent.results.without hValue,
        hCoherent.base_eq⟩
  | _ => exact hCoherent

/- A handle that a request creates was not held before. -/
theorem not_holds_of_creates
    (hCoherent : holdings.Coherent)
    (hStep : holdings.Step request answer after)
    {handle : Handle}
    (hCreates : Exchange.Creates (request, answer) handle) :
    ¬ holdings.Holds handle := by
  intro hHolds
  have hDynamic := hCoherent.not_isConstant hHolds
  cases hStep with
  | allocated =>
      rw [Exchange.creates_allocated_iff] at hCreates
      subst hCreates
      have hFresh := hCoherent.qubits.get?_insert_fst ()
      simp [Holds, HandleTable.Live, hFresh] at hHolds
  | measured bases targets =>
      rw [Exchange.creates_measured_iff] at hCreates
      subst hCreates
      have hFresh := hCoherent.results.get?_insert_fst ()
      simp [Holds, HandleTable.Live, hFresh] at hHolds
  | constantGiven bases targets r hConstant =>
      rw [Exchange.creates_measured_iff] at hCreates
      subst hCreates
      exact hDynamic hConstant
  | refused request e =>
      exact Exchange.not_creates_error request e handle hCreates
  | kept request reply hKeeps =>
      exact Exchange.not_creates_of_keepsHandles hKeeps _ handle
        hCreates
  | _ => simp at hCreates

/-
  What is held after a request is what it created and what was
  held before and is not ended by it.
-/
theorem holds_iff
    (hCoherent : holdings.Coherent)
    (hStep : holdings.Step request answer after)
    (handle : Handle) :
    after.Holds handle ↔
      (¬ handle.IsConstant ∧
          Exchange.Creates (request, answer) handle) ∨
        (¬ Exchange.Ends (request, answer) handle ∧
          holdings.Holds handle) := by
  have hAfter := hStep.coherent hCoherent
  cases hStep with
  | refused request e => simp
  | allocated =>
      rw [hCoherent.holds_allocated_iff,
        Exchange.creates_allocated_iff]
      have hDynamic :
          handle = .qubit (holdings.qubits.insert ()).1 →
            ¬ handle.IsConstant := by
        rintro rfl
        exact not_false
      simp only [Exchange.not_ends_allocateQubit,
        not_false_eq_true, true_and, and_iff_right_of_imp hDynamic]
  | measured bases targets =>
      rw [hCoherent.holds_measured_iff,
        Exchange.creates_measured_iff]
      have hDynamic :
          handle = .result (holdings.results.insert ()).1 →
            ¬ handle.IsConstant := by
        intro hEq
        exact hAfter.not_isConstant
          ((hCoherent.holds_measured_iff handle).mpr (.inl hEq))
      simp only [Exchange.not_ends_measure, not_false_eq_true,
        true_and, and_iff_right_of_imp hDynamic]
  | constantGiven bases targets r hConstant =>
      have hNone :
          ¬ (¬ handle.IsConstant ∧ handle = .result r) := by
        rintro ⟨hDynamic, rfl⟩
        exact hDynamic hConstant
      simp only [Exchange.creates_measured_iff,
        Exchange.not_ends_measure, not_false_eq_true, true_and,
        or_iff_right hNone]
  | released q hLive =>
      simp [holds_qubitReleased_iff hLive]
  | resultReleased r hLive =>
      simp [holds_resultReleased_iff hLive]
  | resultKept r hDead =>
      have hOther :
          holdings.Holds handle → handle ≠ .result r := by
        rintro hHolds rfl
        exact hDead hHolds
      simp only [Exchange.not_creates_releaseResult,
        Exchange.ends_releasedResult_iff, and_false, false_or,
        and_iff_right_of_imp hOther]
  | kept request reply hKeeps =>
      simp [Exchange.not_creates_of_keepsHandles hKeeps,
        Exchange.not_ends_of_keepsHandles hKeeps]

end Step

------------------------------------------------------------
-- Steps of tables with values
------------------------------------------------------------

/- The holdings of a backend with these tables. -/
def ofTables {V W : Type}
    (qubits : HandleTable QubitId V)
    (results : HandleTable ResultId W) : Holdings :=
  { qubits := qubits.shape
    results := results.shape }

section

variable {V W : Type}
variable {qubits : HandleTable QubitId V}
variable {results : HandleTable ResultId W}

@[simp] theorem holds_ofTables_qubit
    (q : QubitId) :
    (ofTables qubits results).Holds (.qubit q) ↔
      qubits.Live q :=
  qubits.live_shape_iff q

@[simp] theorem holds_ofTables_result
    (r : ResultId) :
    (ofTables qubits results).Holds (.result r) ↔
      results.Live r :=
  results.live_shape_iff r

/- Tables that have just been made are coherent. -/
theorem coherent_ofTables_make
    (recycle : Bool) :
    (ofTables (HandleTable.make recycle : HandleTable QubitId V)
      (HandleTable.empty.withBase ResultId.firstDynamic :
        HandleTable ResultId W)).Coherent where
  qubits := by
    refine (HandleTable.coherent_shape_iff _).mpr ?_
    cases recycle with
    | false => exact HandleTable.coherent_make false 0
    | true => exact HandleTable.coherent_make true 0
  results :=
    (HandleTable.coherent_shape_iff _).mpr
      (HandleTable.coherent_make false ResultId.firstDynamic)
  base_eq := rfl

theorem step_allocated
    (value : V) :
    (ofTables qubits results).Step
      (.allocateQubit : Request R)
      (.ok (.qubit (qubits.insert value).1))
      (ofTables (qubits.insert value : QubitId × _).2 results) := by
  unfold ofTables
  rw [← qubits.insert_fst_shape value, qubits.shape_insert value]
  exact .allocated

theorem step_released
    {q : QubitId}
    (hLive : qubits.Live q) :
    (ofTables qubits results).Step
      (.releaseQubit q : Request R) (.ok .done)
      (ofTables (qubits.without q) results) := by
  unfold ofTables
  rw [qubits.shape_without q]
  exact .released q ((qubits.live_shape_iff q).mpr hLive)

theorem step_measured
    (bases : List Pauli)
    (targets : List QubitId)
    (value : W) :
    (ofTables qubits results).Step
      (.measure bases targets : Request R)
      (.ok (.result (results.insert value).1))
      (ofTables qubits (results.insert value : ResultId × _).2) := by
  unfold ofTables
  rw [← results.insert_fst_shape value,
    results.shape_insert value]
  exact .measured bases targets

theorem step_resultReleased
    {r : ResultId}
    (hLive : results.Live r) :
    (ofTables qubits results).Step
      (.releaseResult r : Request R) (.ok .done)
      (ofTables qubits (results.without r)) := by
  unfold ofTables
  rw [results.shape_without r]
  exact .resultReleased r ((results.live_shape_iff r).mpr hLive)

theorem step_resultKept
    {r : ResultId}
    (hDead : ¬ results.Live r) :
    (ofTables qubits results).Step
      (.releaseResult r : Request R) (.ok .done)
      (ofTables qubits results) :=
  .resultKept r fun hLive =>
    hDead ((results.live_shape_iff r).mp hLive)

end

end Holdings

------------------------------------------------------------
-- Bookkeeping
------------------------------------------------------------

/-
  How a backend keeps account of its handles: its tables, in
  the states that it can get into, change with every request as
  they should, and what is in them can be released.
-/
structure Bookkeeping
    (R β : Type)
    [Scalar R]
    [Backend R β] where
  Sound : β → Prop
  holdings : β → Holdings
  coherent :
    ∀ b, Sound b → (holdings b).Coherent
  sound_run :
    ∀ (request : Request R) (b : β),
      Sound b → Sound (request.run.perform b).2
  step :
    ∀ (request : Request R) (b : β),
      Sound b →
        (holdings b).Step request (request.run.perform b).1
          (holdings (request.run.perform b).2)
  accepts :
    ∀ (handle : Handle) (b : β),
      Sound b →
        (holdings b).Holds handle →
          ∃ reply,
            (handle.releaseRequest.run.perform b).1 = .ok reply

namespace Bookkeeping

variable {R β : Type} [Scalar R] [Backend R β]
variable (book : Bookkeeping R β)
variable {b : β}

/- A handle is live in a backend. -/
def Holds
    (b : β)
    (handle : Handle) : Prop :=
  (book.holdings b).Holds handle

/- What a backend holds after a request. -/
theorem holds_run_iff
    (hSound : book.Sound b)
    (request : Request R)
    (handle : Handle) :
    book.Holds (request.run.perform b).2 handle ↔
      (¬ handle.IsConstant ∧
          Exchange.Creates
            (request, (request.run.perform b).1) handle) ∨
        (¬ Exchange.Ends
            (request, (request.run.perform b).1) handle ∧
          book.Holds b handle) :=
  (book.step request b hSound).holds_iff
    (book.coherent b hSound) handle

/-
  A backend accepts the release of all that it holds, one handle
  after the other, and holds the rest afterwards.
-/
theorem releases
    (hSound : book.Sound b)
    {handles : List Handle}
    (hDistinct : handles.Nodup)
    (hHolds : ∀ handle ∈ handles, book.Holds b handle) :
    let run :=
      runRequests b (handles.map Handle.releaseRequest)
    (∀ answer ∈ run.1, ∃ reply, answer = .ok reply) ∧
      book.Sound run.2 ∧
      ∀ handle,
        book.Holds run.2 handle ↔
          handle ∉ handles ∧ book.Holds b handle := by
  induction handles generalizing b with
  | nil => simpa using hSound
  | cons first rest ih =>
      rcases List.nodup_cons.mp hDistinct with ⟨hNew, hRest⟩
      rcases List.forall_mem_cons.mp hHolds with
        ⟨hFirst, hOthers⟩
      rcases book.accepts first b hSound hFirst with
        ⟨reply, hReply⟩
      have hAfter :
          ∀ handle,
            book.Holds (first.releaseRequest.run.perform b).2
                handle ↔
              handle ≠ first ∧ book.Holds b handle := by
        intro handle
        rw [book.holds_run_iff hSound, hReply]
        simp
      have hKept :
          ∀ handle ∈ rest,
            book.Holds (first.releaseRequest.run.perform b).2
              handle := by
        intro handle hMem
        refine (hAfter handle).mpr ⟨?_, hOthers handle hMem⟩
        rintro rfl
        exact hNew hMem
      rcases ih (book.sound_run _ b hSound) hRest hKept with
        ⟨hAnswers, hSoundRest, hHoldsRest⟩
      refine ⟨?_, hSoundRest, ?_⟩
      · exact List.forall_mem_cons.mpr
          ⟨⟨reply, hReply⟩, hAnswers⟩
      · intro handle
        refine (hHoldsRest handle).trans ?_
        rw [hAfter, List.mem_cons]
        tauto

end Bookkeeping

end QuantumRuntime

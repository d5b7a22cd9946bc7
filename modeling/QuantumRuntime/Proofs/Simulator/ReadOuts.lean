import QuantumRuntime.Proofs.Scope.Owed
import QuantumRuntime.Proofs.Simulator.RecordedOutcomes
import QuantumRuntime.Proofs.Simulator.ResultModes

/-
  This file describes a read-out of a qubit: it is measured, and
  the result is given back once its outcome is known. A read-out
  spends a draw or counts a measurement, but it leaves no result
  behind, neither in the backend nor in the record of a scope.

  Key definitions include:
    * `ReadOut`
    * `Builtin.AfterReadOut`

  Key theorems include:
    * `Bookkeeping.holds_readOut_iff`
    * `Tracker.followAll_readOut`
    * `Builtin.HasHistory.exists_readOut`
    * `Builtin.Reachable.exists_readOut`
-/

namespace QuantumRuntime

variable {R : Type} [Scalar R] {β : Type} [Backend R β]

------------------------------------------------------------
-- Read-outs
------------------------------------------------------------

/- The requests of a read-out that is answered with a result. -/
def Request.readOut
    {R : Type}
    (q : QubitId)
    (r : ResultId) : List (Request R) :=
  [.measure [.z] [q], .releaseResult r]

/- What is exchanged in a read-out. -/
def Exchange.readOut
    {R : Type}
    (q : QubitId)
    (r : ResultId) : List (Exchange R) :=
  [(.measure [.z] [q], .ok (.result r)),
    (.releaseResult r, .ok .done)]

/-
  A backend measures a qubit with some result, and takes the
  result back.
-/
structure ReadOut
    (R : Type)
    [Scalar R]
    [Backend R β]
    (q : QubitId)
    (r : ResultId)
    (b measured after : β) : Prop where
  measure_eq :
    (Request.measure (R := R) [.z] [q]).run.perform b =
      (.ok (.result r), measured)
  release_eq :
    (Request.releaseResult (R := R) r).run.perform measured =
      (.ok .done, after)

/- What is created and ended at once makes no difference. -/
theorem Handle.created_and_ended_iff
    {Held : Handle → Prop}
    {fresh : Handle}
    (hNew : ¬ Held fresh)
    (handle : Handle) :
    handle ≠ fresh ∧
        ((¬ handle.IsConstant ∧ handle = fresh) ∨ Held handle) ↔
      Held handle := by
  constructor
  · rintro ⟨hOther, ⟨-, hSame⟩ | hHeld⟩
    · exact absurd hSame hOther
    · exact hHeld
  · intro hHeld
    refine ⟨?_, .inr hHeld⟩
    rintro rfl
    exact hNew hHeld

namespace ReadOut

variable {q : QubitId} {r : ResultId} {b measured after : β}

theorem map
    {γ : Type}
    [Backend R γ]
    {embed : β → γ}
    (hReadOut : ReadOut R q r b measured after)
    (hEmbed : Backend.Morphism embed) :
    ReadOut R q r (embed b) (embed measured) (embed after) where
  measure_eq := by rw [hEmbed.run_eq, hReadOut.measure_eq]
  release_eq := by rw [hEmbed.run_eq, hReadOut.release_eq]

variable {book : Bookkeeping R β}

/- The result of a read-out was not held before it. -/
theorem not_holds
    (hReadOut : ReadOut R q r b measured after)
    (hSound : book.Sound b) :
    ¬ book.Holds b (.result r) := by
  apply (book.step (.measure [.z] [q]) b hSound).not_holds_of_creates
    (book.coherent b hSound)
  rw [hReadOut.measure_eq]
  exact (Exchange.creates_measured_iff _ _ r _).mpr rfl

theorem sound_measured
    (hReadOut : ReadOut R q r b measured after)
    (hSound : book.Sound b) :
    book.Sound measured := by
  have hRun := book.sound_run (.measure [.z] [q]) b hSound
  rwa [hReadOut.measure_eq] at hRun

theorem sound
    (hReadOut : ReadOut R q r b measured after)
    (hSound : book.Sound b) :
    book.Sound after := by
  have hRun :=
    book.sound_run (.releaseResult r) measured
      (hReadOut.sound_measured hSound)
  rwa [hReadOut.release_eq] at hRun

/- After it, the backend holds what it held before. -/
theorem holds_iff
    (hReadOut : ReadOut R q r b measured after)
    (hSound : book.Sound b)
    (handle : Handle) :
    book.Holds after handle ↔ book.Holds b handle := by
  have hMeasured :
      book.Holds measured handle ↔
        (¬ handle.IsConstant ∧ handle = .result r) ∨
          book.Holds b handle := by
    have hStep :=
      book.holds_run_iff hSound (.measure [.z] [q]) handle
    simpa [hReadOut.measure_eq] using hStep
  have hAfter :
      book.Holds after handle ↔
        handle ≠ .result r ∧ book.Holds measured handle := by
    have hStep :=
      book.holds_run_iff (hReadOut.sound_measured hSound)
        (.releaseResult r) handle
    simpa [hReadOut.release_eq] using hStep
  rw [hAfter, hMeasured]
  exact Handle.created_and_ended_iff (hReadOut.not_holds hSound)
    handle

end ReadOut

omit [Scalar R] in
/- A record that does not list the result is as before. -/
theorem Tracker.followAll_readOut
    {q : QubitId}
    {r : ResultId}
    {tracker : Tracker}
    (hNew : ¬ tracker.Holds (.result r)) :
    tracker.followAll (Exchange.readOut (R := R) q r) =
      tracker := by
  apply eq_of_holds
  intro handle
  simp only [Exchange.readOut, followAll_cons, followAll_nil,
    holds_follow, Exchange.creates_measured_iff,
    Exchange.not_ends_measure, Exchange.not_creates_releaseResult,
    Exchange.ends_releasedResult_iff, and_false, false_or,
    not_false_eq_true, true_and]
  exact Handle.created_and_ended_iff hNew handle

------------------------------------------------------------
-- The simulator of the full state
------------------------------------------------------------

omit [Scalar R] in
/- A released result gives its slot back, and no outcome changes. -/
theorem HandleTable.release_insert_fst
    {K V : Type}
    [HandleKey K]
    [DecidableEq K]
    {table : HandleTable K V}
    (hCoherent : table.Coherent)
    (value : V)
    (operation : String) :
    ((table.insert value).2 : HandleTable K V).release
        (table.insert value).1 operation =
      .ok (value,
        ((table.insert value).2 : HandleTable K V).without
          (table.insert value).1) := by
  apply release_of_live
  rw [hCoherent.get?_insert, if_pos rfl]

/- On the full state a read-out spends the next draw. -/
theorem FullState.exists_readOut
    {sim : FullState R}
    {history : List (Exchange R)}
    (hLedger : Ledger history sim.results)
    {q : QubitId}
    {position : Nat}
    (hLive : sim.qubits.get? q = some position) :
    ∃ r measured results,
      ReadOut R q r sim measured
          { sim.collapsed position with results := results } ∧
        outcomeOf measured.results r =
          some (sim.nextOutcome position) := by
  let bit := sim.nextOutcome position
  let r : ResultId := (sim.results.insert bit).1
  let recorded : HandleTable ResultId Bool :=
    (sim.results.insert bit : ResultId × _).2
  let measured : FullState R :=
    { sim.collapsed position with results := recorded }
  have hDynamic : ¬ r.IsConstant :=
    hLedger.not_isConstant_insert_fst bit
  refine ⟨r, measured, recorded.without r, ⟨?_, ?_⟩,
    hLedger.outcomeOf_insert bit⟩
  · have hMeasured :
        (measureAt position .z).perform sim =
          (.ok bit, sim.collapsed position) :=
      perform_measureBit position sim
    exact Request.run_measure
      (perform_measure_of_live rfl hLive hMeasured)
  · have hRelease :
        (releaseResult r).perform measured =
          (.ok (),
            { measured with results := recorded.without r }) := by
      rw [perform_releaseResult, if_neg hDynamic]
      simp only [measured, recorded, r,
        HandleTable.release_insert_fst hLedger.coherent]
    exact Request.run_releaseResult hRelease

------------------------------------------------------------
-- The simulator of bits
------------------------------------------------------------

/- On bits a read-out changes no bit, in either result mode. -/
theorem Toffoli.exists_readOut
    {sim : Toffoli R}
    {history : List (Exchange R)}
    (hLedger : Ledger history sim.results)
    {q : QubitId}
    {bit : Bool}
    (hLive : sim.qubits.get? q = some bit) :
    ∃ r measured results,
      ReadOut R q r sim measured { sim with results := results } ∧
        outcomeOf measured.results r = some bit := by
  have hSingle :
      singleMeasurement sim.name [.z] [q] = .ok (.z, q) := rfl
  have hPerform :
      (measure [.z] [q]).perform sim =
        (.ok (sim.handOut bit).1, (sim.handOut bit).2) :=
    perform_measure_of_live hSingle hLive
  have hMeasure :
      (Request.measure (R := R) [.z] [q]).run.perform sim =
        (.ok (.result (sim.handOut bit).1),
          (sim.handOut bit).2) := by
    rw [Request.run_measure hPerform]
    rfl
  by_cases hMode : sim.mode = .canonical
  · rw [handOut_of_canonical hMode] at hMeasure
    refine ⟨ResultId.ofBool bit, sim, sim.results,
      ⟨hMeasure, ?_⟩, outcomeOf_ofBool sim.results bit⟩
    have hRelease :
        (releaseResult (ResultId.ofBool bit)).perform sim =
          (.ok (), sim) := by
      rw [perform_releaseResult, if_pos (.inr hMode)]
    exact Request.run_releaseResult hRelease
  · let r : ResultId := (sim.results.insert bit).1
    let recorded : HandleTable ResultId Bool :=
      (sim.results.insert bit : ResultId × _).2
    let measured : Toffoli R := { sim with results := recorded }
    have hTracked : sim.mode = .tracked := by
      cases hOther : sim.mode with
      | tracked => rfl
      | canonical => exact absurd hOther hMode
    have hKept :
        ¬ (r.IsConstant ∨ measured.mode = .canonical) := by
      rintro (hConstant | hCanonical)
      · exact hLedger.not_isConstant_insert_fst bit hConstant
      · exact hMode hCanonical
    rw [handOut_of_tracked hTracked] at hMeasure
    refine ⟨r, measured, recorded.without r, ⟨hMeasure, ?_⟩,
      hLedger.outcomeOf_insert bit⟩
    have hRelease :
        (releaseResult r).perform measured =
          (.ok (),
            { measured with results := recorded.without r }) := by
      rw [perform_releaseResult, if_neg hKept]
      simp only [measured, recorded, r,
        HandleTable.release_insert_fst hLedger.coherent]
    exact Request.run_releaseResult hRelease

------------------------------------------------------------
-- The tracer
------------------------------------------------------------

/- The tracer counts a read-out, with the outcome zero. -/
theorem Tracer.readOut_of_live
    {tracer : Tracer R}
    {q : QubitId}
    {layer : Nat}
    (hLive : tracer.qubits.get? q = some layer) :
    ReadOut R q ResultId.zero tracer
      (tracer.moved [q] (layer + 1)).measurementCounted
      (tracer.moved [q] (layer + 1)).measurementCounted where
  measure_eq :=
    Request.run_measure (perform_measure_of_live rfl hLive)
  release_eq := rfl

------------------------------------------------------------
-- Built-in backends
------------------------------------------------------------

namespace Builtin

/-
  What a read-out with some outcome leaves of a simulator. On
  the full state the outcome is that of the next draw, and the
  state collapses onto it; on bits it is the bit. The tracer
  takes it to be zero.
-/
inductive AfterReadOut
    (q : QubitId) : Builtin R → Bool → Builtin R → Prop
  | fullState
      (sim : FullState R)
      (position : Nat)
      (results : HandleTable ResultId Bool)
      (hLive : sim.qubits.get? q = some position) :
      AfterReadOut q (.fullState sim) (sim.nextOutcome position)
        (.fullState
          { sim.collapsed position with results := results })
  | toffoli
      (sim : Toffoli R)
      (bit : Bool)
      (results : HandleTable ResultId Bool)
      (hLive : sim.qubits.get? q = some bit) :
      AfterReadOut q (.toffoli sim) bit
        (.toffoli { sim with results := results })
  | tracer
      (t : Tracer R)
      (layer : Nat)
      (hLive : t.qubits.get? q = some layer) :
      AfterReadOut q (.tracer t) false
        (.tracer (t.moved [q] (layer + 1)).measurementCounted)

/- A simulator that can be reached has a history. -/
theorem Reachable.exists_history
    {b : Builtin R}
    (hReachable : b.Reachable)
    (hSimulator : b.kind ≠ .stub) :
    ∃ history, b.HasHistory history := by
  induction hReachable with
  | fullState sim hFresh => exact ⟨[], .fullState sim hFresh⟩
  | toffoli sim hFresh => exact ⟨[], .toffoli sim hFresh⟩
  | tracer name => exact ⟨[], .tracer name⟩
  | stub s => exact absurd rfl hSimulator
  | request request before _ ih =>
      rw [kind_run] at hSimulator
      rcases ih hSimulator with ⟨history, hHistory⟩
      exact ⟨_, .request request before history hHistory⟩
  | takeMetrics before _ ih =>
      have hKind : before.kind ≠ .stub := by
        cases before <;> exact hSimulator
      rcases ih hKind with ⟨history, hHistory⟩
      exact ⟨history, .takeMetrics before history hHistory⟩

/- Every live qubit can be read out. -/
theorem HasHistory.exists_readOut
    {b : Builtin R}
    {history : List (Exchange R)}
    (hHistory : b.HasHistory history)
    {q : QubitId}
    (hLive : b.Holds (.qubit q)) :
    ∃ r bit measured after,
      ReadOut R q r b measured after ∧
        outcomeOf measured.outcomes r = some bit ∧
        AfterReadOut q b bit after := by
  have hLedger := hHistory.ledger
  cases b with
  | fullState sim =>
      rcases (sim.qubits.live_iff q).mp hLive with
        ⟨position, hPosition⟩
      rcases FullState.exists_readOut hLedger hPosition with
        ⟨r, measured, results, hReadOut, hOutcome⟩
      exact ⟨r, _, _, _, hReadOut.map fullState_morphism, hOutcome,
        .fullState sim position results hPosition⟩
  | toffoli sim =>
      rcases (sim.qubits.live_iff q).mp hLive with ⟨bit, hBit⟩
      rcases Toffoli.exists_readOut hLedger hBit with
        ⟨r, measured, results, hReadOut, hOutcome⟩
      exact ⟨r, _, _, _, hReadOut.map toffoli_morphism, hOutcome,
        .toffoli sim bit results hBit⟩
  | tracer t =>
      rcases (t.qubits.live_iff q).mp hLive with ⟨layer, hLayer⟩
      exact ⟨_, false, _, _,
        (Tracer.readOut_of_live hLayer).map tracer_morphism,
        outcomeOf_ofBool _ false, .tracer t layer hLayer⟩
  | stub s => exact hLive.elim

/- In every state that can be reached there is such a read-out. -/
theorem Reachable.exists_readOut
    {b : Builtin R}
    (hReachable : b.Reachable)
    {q : QubitId}
    (hLive : b.Holds (.qubit q)) :
    ∃ r bit measured after,
      ReadOut R q r b measured after ∧
        measured.kind ≠ .stub ∧
        outcomeOf measured.outcomes r = some bit ∧
        AfterReadOut q b bit after := by
  have hSimulator : b.kind ≠ .stub := by
    cases b with
    | stub s => exact hLive.elim
    | _ => exact BuiltinKind.noConfusion
  rcases hReachable.exists_history hSimulator with
    ⟨history, hHistory⟩
  rcases hHistory.exists_readOut hLive with
    ⟨r, bit, measured, after, hReadOut, hOutcome, hAfter⟩
  have hKind := kind_run (R := R) (.measure [.z] [q]) b
  rw [hReadOut.measure_eq] at hKind
  exact ⟨r, bit, measured, after, hReadOut,
    fun hStub => hSimulator (hKind.symm.trans hStub), hOutcome,
    hAfter⟩

end Builtin

end QuantumRuntime

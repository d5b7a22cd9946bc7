import QuantumRuntime.Proofs.Backend.ResultNames
import QuantumRuntime.Proofs.OverlookedChanges
import QuantumRuntime.Proofs.Simulator.RecordedOutcomes

/-
  This file proves that the two result modes of the simulator of
  bits are interchangeable for clients that name results by
  their measurements and use none after its release. One mode
  keeps a table of outcomes and compares results by value, the
  other hands out the constants and compares them by identity.

  Key definitions include:
    * `Toffoli.recast`
    * `Toffoli.Interchangeable`

  Key theorems include:
    * `Toffoli.overlooks_applyControlled`
    * `Toffoli.perform_run_recast`
    * `Toffoli.Interchangeable.asked`
    * `Toffoli.Interchangeable.measured`
    * `Toffoli.Interchangeable.resultReleased`
    * `Toffoli.result_modes_are_interchangeable`
-/

namespace QuantumRuntime

namespace Toffoli

open QuantumRuntime.Action (overlooks_pure overlooks_modify
  overlooks_get_bind overlooks_modify_bind overlooks_ofExcept_bind)

variable {R : Type}

------------------------------------------------------------
-- Qubits do not depend on results
------------------------------------------------------------

/- The same qubits with other results in another mode. -/
def recast
    (results : HandleTable ResultId Bool)
    (mode : ResultMode)
    (sim : Toffoli R) : Toffoli R :=
  { sim with
    results := results
    mode := mode }

section

variable (results : HandleTable ResultId Bool) (mode : ResultMode)
variable (sim : Toffoli R)

theorem overlooks_flipBit
    (g : Gate R)
    (operation : String)
    (target : QubitId) :
    (flipBit g operation target).Overlooks (recast results mode)
      sim := by
  apply overlooks_get_bind rfl
  refine overlooks_ofExcept_bind fun bit _ => ?_
  split
  · exact overlooks_ofExcept_bind fun _ _ => overlooks_modify rfl
  · exact overlooks_pure _

theorem overlooks_allocateQubit :
    allocateQubit.Overlooks (recast results mode) sim := by
  apply overlooks_get_bind rfl
  exact overlooks_modify_bind rfl (overlooks_pure _)

theorem overlooks_releaseQubit
    (q : QubitId) :
    (releaseQubit q).Overlooks (recast results mode) sim := by
  apply overlooks_get_bind rfl
  exact overlooks_ofExcept_bind fun _ _ => overlooks_modify rfl

variable [Scalar R]

theorem overlooks_apply
    (g : Gate R)
    (target : QubitId) :
    (apply g target).Overlooks (recast results mode) sim := by
  apply overlooks_get_bind rfl
  refine overlooks_ofExcept_bind fun _ _ => ?_
  refine overlooks_ofExcept_bind fun _ _ => ?_
  exact overlooks_flipBit results mode sim g "apply" target

theorem overlooks_applyControlled
    (g : Gate R)
    (controls : List QubitId)
    (target : QubitId) :
    (applyControlled g controls target).Overlooks
      (recast results mode) sim := by
  apply overlooks_get_bind rfl
  refine overlooks_ofExcept_bind fun _ _ => ?_
  refine overlooks_ofExcept_bind fun _ _ => ?_
  refine overlooks_ofExcept_bind fun _ _ => ?_
  refine overlooks_ofExcept_bind fun _ _ => ?_
  refine overlooks_ofExcept_bind fun active _ => ?_
  cases active with
  | true =>
      exact overlooks_flipBit results mode sim g "apply_controlled"
        target
  | false => exact overlooks_pure _

/- A request that acts on qubits does not look at the results. -/
theorem perform_run_recast
    {request : Request R}
    (hActs : request.ActsOnQubits) :
    request.run.perform (sim.recast results mode) =
      ((request.run.perform sim).1,
        (request.run.perform sim).2.recast results mode) := by
  cases request with
  | allocateQubit =>
      exact (overlooks_allocateQubit results mode sim).map _
  | releaseQubit q =>
      exact (overlooks_releaseQubit results mode sim q).map _
  | apply g target =>
      exact (overlooks_apply results mode sim g target).map _
  | applyControlled g controls target =>
      exact (overlooks_applyControlled results mode sim g controls
        target).map _
  | _ => exact hActs.elim

omit [Scalar R] in
/-
  Whether a measurement is refused, and its outcome, do not
  depend on the results. Only what is handed out does.
-/
theorem perform_measure_recast
    (bases : List Pauli)
    (targets : List QubitId) :
    (∃ e, ∀ results mode,
      (measure bases targets).perform (sim.recast results mode) =
        (.error e, sim.recast results mode)) ∨
      ∃ bit, ∀ results mode,
        (measure bases targets).perform (sim.recast results mode) =
          (.ok ((sim.recast results mode).handOut bit).1,
            ((sim.recast results mode).handOut bit).2) := by
  cases hSingle : singleMeasurement sim.name bases targets with
  | error e =>
      exact .inl ⟨e, fun _ _ => perform_measure_of_shape hSingle⟩
  | ok pair =>
      rcases pair with ⟨basis, target⟩
      cases hKey : sim.qubits.get? target with
      | none =>
          refine .inl
            ⟨sim.qubits.violation target "measure",
              fun results mode => ?_⟩
          have hRun :
              (measure bases targets).perform
                (sim.recast results mode) = _ :=
            perform_measure_of_dead hSingle hKey
          exact hRun
      | some own =>
          cases hOutcome : outcomeIn own basis with
          | none =>
              refine .inl
                ⟨.unsupported sim.name
                  s!"measure in the {basis.text} basis",
                  fun results mode => ?_⟩
              have hRun :
                  (measure bases targets).perform
                    (sim.recast results mode) = _ :=
                perform_measure_of_live hSingle hKey
              rw [hOutcome] at hRun
              exact hRun
          | some bit =>
              refine .inr ⟨bit, fun results mode => ?_⟩
              have hRun :
                  (measure bases targets).perform
                    (sim.recast results mode) = _ :=
                perform_measure_of_live hSingle hKey
              rw [hOutcome] at hRun
              exact hRun

end

/- A tracked outcome is a new entry of the table. -/
theorem handOut_of_tracked
    {sim : Toffoli R}
    (hTracked : sim.mode = .tracked)
    (bit : Bool) :
    sim.handOut bit =
      ((sim.results.insert bit).1,
        { sim with
          results :=
            (sim.results.insert bit :
              ResultId × HandleTable ResultId Bool).2 }) := by
  rcases sim with ⟨name, qubits, results, mode⟩
  cases hTracked
  rfl

/- Otherwise it is a constant, and nothing is kept. -/
theorem handOut_of_canonical
    {sim : Toffoli R}
    (hCanonical : sim.mode = .canonical)
    (bit : Bool) :
    sim.handOut bit = (ResultId.ofBool bit, sim) := by
  rcases sim with ⟨name, qubits, results, mode⟩
  cases hCanonical
  rfl

/- Neither does it change them. -/
theorem Effect.results_eq
    {sim after : Toffoli R}
    {request : Request R}
    {answer : Except BackendError Reply}
    (hActs : request.ActsOnQubits)
    (hEffect : sim.Effect request answer after) :
    after.results = sim.results := by
  cases hEffect with
  | kept request reply after _ _ hResults => exact hResults
  | measured => exact hActs.elim
  | resultReleased => exact hActs.elim
  | _ => rfl

------------------------------------------------------------
-- Simulators in the two modes
------------------------------------------------------------

/-
  A simulator with tracked results and one with constants have
  the same qubits, and under the names of a client a result in
  the one table is the constant in the other.
-/
structure Interchangeable
    (named named' : Measured (Toffoli R)) : Prop where
  tracked : named.backend.mode = .tracked
  recast_eq :
    named'.backend =
      named.backend.recast named'.backend.results .canonical
  length_eq : named'.results.length = named.results.length
  live_eq : named'.live = named.live
  named_lt : ∀ r ∈ named.live, r.raw < named.next.raw
  base_eq : named.backend.results.base = ResultId.firstDynamic
  keyed :
    HandleTable.Keyed named.live named.result named.backend.results
  outcome :
    ∀ r ∈ named.live, ∃ bit,
      named.backend.results.get? (named.result r) = some bit ∧
        named'.result r = ResultId.ofBool bit

/- Both give the same answer to a request and stay so. -/
def AskedInterchangeably
    [Scalar R]
    (request : Request R)
    (named named' : Measured (Toffoli R)) : Prop :=
  (named'.ask request).1 = (named.ask request).1 ∧
    Interchangeable (named.ask request).2 (named'.ask request).2

namespace Interchangeable

variable {named named' : Measured (Toffoli R)}

theorem canonical
    (hSame : Interchangeable named named') :
    named'.backend.mode = .canonical := by
  rw [hSame.recast_eq]
  rfl

/- Fresh simulators with the same qubits start so. -/
theorem start
    {sim sim' : Toffoli R}
    (hFresh : sim.Fresh)
    (hTracked : sim.mode = .tracked)
    (hCanonical : sim'.mode = .canonical)
    (hName : sim'.name = sim.name)
    (hQubits : sim'.qubits = sim.qubits) :
    Interchangeable (Measured.start sim) (Measured.start sim') := by
  have hResults := hFresh.untouched.results_eq
  constructor
  case tracked => exact hTracked
  case recast_eq =>
    rcases sim' with ⟨name, qubits, results, mode⟩
    cases hName
    cases hQubits
    cases hCanonical
    rfl
  case length_eq => rfl
  case live_eq => rfl
  case named_lt => simp [Measured.start]
  case base_eq =>
    simp only [Measured.start, hResults]
    rfl
  case keyed =>
    refine ⟨?_, by simp [Measured.start], by simp [Measured.start]⟩
    simp only [Measured.start, hResults]
    exact HandleTable.coherent_make false ResultId.firstDynamic
  case outcome => simp [Measured.start]

/- A name in use stands for a result of the table. -/
theorem not_isConstant_result
    (hSame : Interchangeable named named')
    {r : ResultId}
    (hName : r ∈ named.live) :
    ¬ (named.result r).IsConstant := by
  have hBase :=
    HandleTable.base_le_of_live (hSame.keyed.live r hName)
  rw [hSame.base_eq] at hBase
  exact Nat.not_lt.mpr hBase

/- Every name that may be used stands for one outcome in both. -/
theorem exists_outcomeOf
    (hSame : Interchangeable named named')
    {r : ResultId}
    (hUsable : named.Usable r) :
    ∃ bit,
      outcomeOf named.backend.results (named.result r) = some bit ∧
        named'.result r = ResultId.ofBool bit := by
  by_cases hConstant : r.IsConstant
  · rcases hConstant.exists_eq_ofBool with ⟨bit, rfl⟩
    rw [Measured.result_of_isConstant hConstant,
      Measured.result_of_isConstant hConstant]
    exact ⟨bit, outcomeOf_ofBool _ bit, rfl⟩
  · have hName := hUsable.resolve_left hConstant
    rcases hSame.outcome r hName with ⟨bit, hBit, hOther⟩
    rw [outcomeOf_of_not_isConstant _
      (hSame.not_isConstant_result hName)]
    exact ⟨bit, hBit, hOther⟩

/- What changes no results keeps simulators interchangeable. -/
theorem changed
    (hSame : Interchangeable named named')
    {after : Toffoli R}
    (hResults : after.results = named.backend.results)
    (hMode : after.mode = named.backend.mode) :
    Interchangeable { named with backend := after }
      { named' with
        backend := after.recast named'.backend.results .canonical } where
  tracked := hMode.trans hSame.tracked
  recast_eq := rfl
  length_eq := hSame.length_eq
  live_eq := hSame.live_eq
  named_lt := hSame.named_lt
  base_eq := by
    rw [hResults]
    exact hSame.base_eq
  keyed := by
    rw [hResults]
    exact hSame.keyed
  outcome := by
    rw [hResults]
    exact hSame.outcome

/-
  Both do to the qubits what is asked and answer the same, if
  that changes no names.
-/
theorem asked
    [Scalar R]
    (hSame : Interchangeable named named')
    {request : Request R}
    {answer : Except BackendError Reply}
    {after : Toffoli R}
    (hNames :
      ∀ (other : Measured (Toffoli R)) (b : Toffoli R),
        other.answered request answer b =
          { other with backend := b })
    (hRun :
      (request.renameResults named.result).run.perform
          named.backend =
        (answer, after))
    (hRun' :
      (request.renameResults named'.result).run.perform
          named'.backend =
        (answer, after.recast named'.backend.results .canonical))
    (hResults : after.results = named.backend.results)
    (hMode : after.mode = named.backend.mode) :
    AskedInterchangeably request named named' := by
  unfold AskedInterchangeably
  rw [Measured.ask_eq hRun, Measured.ask_eq hRun', hNames, hNames]
  exact
    ⟨Measured.seen_eq_of_length_eq hSame.length_eq answer,
      hSame.changed hResults hMode⟩

/- Both answer the same and stay as they are. -/
theorem unchanged
    [Scalar R]
    (hSame : Interchangeable named named')
    {request : Request R}
    {answer : Except BackendError Reply}
    (hNames :
      ∀ (other : Measured (Toffoli R)) (b : Toffoli R),
        other.answered request answer b =
          { other with backend := b })
    (hRun :
      (request.renameResults named.result).run.perform
          named.backend =
        (answer, named.backend))
    (hRun' :
      (request.renameResults named'.result).run.perform
          named'.backend =
        (answer, named'.backend)) :
    AskedInterchangeably request named named' := by
  refine hSame.asked hNames hRun ?_ rfl rfl
  rw [← hSame.recast_eq]
  exact hRun'

/-
  Both record an outcome under the next name: the one as a new
  entry of its table, the other as a constant.
-/
theorem recorded
    (hSame : Interchangeable named named')
    (bit : Bool) :
    Interchangeable
      (named.recorded (named.backend.results.insert bit).1
        { named.backend with
          results :=
            (named.backend.results.insert bit :
              ResultId × HandleTable ResultId Bool).2 })
      (named'.recorded (ResultId.ofBool bit) named'.backend) := by
  have hNext := Measured.next_eq_of_length_eq hSame.length_eq
  have hOld :
      ∀ r ∈ named.live, ∀ new after,
        (named.recorded new after).result r = named.result r :=
    fun r hMem => Measured.result_recorded (hSame.named_lt r hMem)
  have hOld' :
      ∀ r ∈ named.live, ∀ new after,
        (named'.recorded new after).result r = named'.result r := by
    intro r hMem
    apply Measured.result_recorded
    rw [hNext]
    exact hSame.named_lt r hMem
  constructor
  case tracked => exact hSame.tracked
  case recast_eq => exact hSame.recast_eq
  case length_eq => simp [Measured.recorded, hSame.length_eq]
  case live_eq =>
    simp only [Measured.recorded, hNext, hSame.live_eq]
  case named_lt =>
    intro r hMem
    rw [Measured.raw_next_recorded]
    rcases List.mem_cons.mp hMem with rfl | hKept
    · exact Nat.lt_succ_self _
    · exact Nat.lt_succ_of_lt (hSame.named_lt r hKept)
  case base_eq =>
    exact (HandleTable.base_insert _ _).trans hSame.base_eq
  case keyed =>
    exact hSame.keyed.insert bit
      (named.result_recorded_next _ _)
      fun r hMem => hOld r hMem _ _
  case outcome =>
    intro r hMem
    have hGet := hSame.keyed.coherent.get?_insert bit
    rcases List.mem_cons.mp hMem with rfl | hKept
    · refine ⟨bit, ?_, ?_⟩
      · rw [Measured.result_recorded_next]
        exact (hGet _).trans (if_pos rfl)
      · rw [← hNext]
        exact named'.result_recorded_next _ _
    · rcases hSame.outcome r hKept with ⟨own, hOwn, hOther⟩
      have hNe := hSame.keyed.ne_insert_fst bit hKept
      refine ⟨own, ?_, ?_⟩
      · rw [hOld r hKept]
        exact (hGet _).trans ((if_neg hNe).trans hOwn)
      · rw [hOld' r hKept]
        exact hOther

/- A name can be forgotten by both. -/
theorem forgotten
    (hSame : Interchangeable named named')
    (old : ResultId) :
    Interchangeable
      { named with live := named.live.filter (· ≠ old) }
      { named' with live := named'.live.filter (· ≠ old) } where
  tracked := hSame.tracked
  recast_eq := hSame.recast_eq
  length_eq := hSame.length_eq
  live_eq := by simp only [hSame.live_eq]
  named_lt r hMem :=
    hSame.named_lt r (List.mem_of_mem_filter hMem)
  base_eq := hSame.base_eq
  keyed := hSame.keyed.mono fun _ => List.mem_of_mem_filter
  outcome r hMem := hSame.outcome r (List.mem_of_mem_filter hMem)

/- A released result is gone in both, but keeps its constant. -/
theorem released
    (hSame : Interchangeable named named')
    {old : ResultId}
    (hName : old ∈ named.live) :
    Interchangeable
      { named with
        backend :=
          { named.backend with
            results :=
              named.backend.results.without (named.result old) }
        live := named.live.filter (· ≠ old) }
      { named' with live := named'.live.filter (· ≠ old) } where
  tracked := hSame.tracked
  recast_eq := hSame.recast_eq
  length_eq := hSame.length_eq
  live_eq := by simp only [hSame.live_eq]
  named_lt r hMem :=
    hSame.named_lt r (List.mem_of_mem_filter hMem)
  base_eq := hSame.base_eq
  keyed := hSame.keyed.without hName
  outcome := by
    intro r hMem
    rcases List.mem_filter.mp hMem with ⟨hKept, hOther⟩
    rcases hSame.outcome old hName with ⟨_, hOld, -⟩
    rcases hSame.outcome r hKept with ⟨own, hOwn, hConstant⟩
    refine ⟨own, ?_, hConstant⟩
    have hNe : named.result r ≠ named.result old := fun hEq =>
      of_decide_eq_true hOther
        (hSame.keyed.injective r hKept old hName hEq)
    exact
      (HandleTable.get?_without
        (HandleTable.issued_of_get?_eq_some _ hOld) _).trans
        ((if_neg hNe).trans hOwn)

end Interchangeable

------------------------------------------------------------
-- Requests in the two modes
------------------------------------------------------------

section

variable [Scalar R]
variable {named named' : Measured (Toffoli R)}

/- Requests that act on qubits do the same to both. -/
theorem askedInterchangeably_of_actsOnQubits
    (hSame : Interchangeable named named')
    {request : Request R}
    (hActs : request.ActsOnQubits) :
    AskedInterchangeably request named named' := by
  have hEffect := named.backend.effect request
  rcases hRun : request.run.perform named.backend with
    ⟨answer, after⟩
  have hRun' :
      request.run.perform named'.backend =
        (answer, after.recast named'.backend.results .canonical) := by
    have hRecast :=
      perform_run_recast named'.backend.results .canonical
        named.backend hActs
    rw [← hSame.recast_eq, hRun] at hRecast
    exact hRecast
  rw [hRun] at hEffect
  refine hSame.asked
    (fun other b => other.answered_of_actsOnQubits hActs answer b)
    ?_ ?_ (hEffect.results_eq hActs) hEffect.mode_eq
  · rw [hActs.renameResults_eq, hRun]
  · rw [hActs.renameResults_eq, hRun']

/- Both measure the same outcome, or refuse alike. -/
theorem askedInterchangeably_measure
    (hSame : Interchangeable named named')
    (bases : List Pauli)
    (targets : List QubitId) :
    AskedInterchangeably (.measure bases targets) named named' := by
  have hOwn :
      named.backend =
        named.backend.recast named.backend.results .tracked := by
    rw [← hSame.tracked]
    rfl
  rcases named.backend.perform_measure_recast bases targets with
    ⟨e, hRefused⟩ | ⟨bit, hAccepted⟩
  · have hRun := hRefused named.backend.results .tracked
    have hRun' := hRefused named'.backend.results .canonical
    rw [← hOwn] at hRun
    rw [← hSame.recast_eq] at hRun'
    exact hSame.unchanged (fun _ _ => rfl)
      (Request.run_measure hRun) (Request.run_measure hRun')
  · have hRun := hAccepted named.backend.results .tracked
    have hRun' := hAccepted named'.backend.results .canonical
    rw [← hOwn, handOut_of_tracked hSame.tracked] at hRun
    rw [← hSame.recast_eq, handOut_of_canonical hSame.canonical]
      at hRun'
    have hAsk :
        named.ask (.measure bases targets) = _ :=
      Measured.ask_eq (Request.run_measure hRun)
    have hAsk' :
        named'.ask (.measure bases targets) = _ :=
      Measured.ask_eq (Request.run_measure hRun')
    unfold AskedInterchangeably
    rw [hAsk, hAsk']
    refine ⟨?_, hSame.recorded bit⟩
    exact congrArg (fun r => Except.ok (Reply.result r))
      (Measured.next_eq_of_length_eq hSame.length_eq)

/- A usable result can be released in both. -/
theorem askedInterchangeably_releaseResult
    (hSame : Interchangeable named named')
    {r : ResultId}
    (hUsable : named.Usable r) :
    AskedInterchangeably (.releaseResult r) named named' := by
  have hRun := perform_releaseResult (named.result r) named.backend
  have hRun' :=
    perform_releaseResult (named'.result r) named'.backend
  rw [if_pos (.inr hSame.canonical)] at hRun'
  have hAsk' : named'.ask (.releaseResult r) = _ :=
    Measured.ask_eq (Request.run_releaseResult hRun')
  unfold AskedInterchangeably
  by_cases hConstant : r.IsConstant
  · have hOwn :
        (named.result r).IsConstant ∨
          named.backend.mode = .canonical := by
      rw [Measured.result_of_isConstant hConstant]
      exact .inl hConstant
    rw [if_pos hOwn] at hRun
    have hAsk : named.ask (.releaseResult r) = _ :=
      Measured.ask_eq (Request.run_releaseResult hRun)
    rw [hAsk, hAsk']
    exact ⟨rfl, hSame.forgotten r⟩
  · have hName := hUsable.resolve_left hConstant
    have hOwn :
        ¬ ((named.result r).IsConstant ∨
          named.backend.mode = .canonical) := by
      rw [hSame.tracked]
      exact not_or.mpr
        ⟨hSame.not_isConstant_result hName, ResultMode.noConfusion⟩
    rcases hSame.outcome r hName with ⟨bit, hBit, -⟩
    rw [if_neg hOwn, HandleTable.release_of_live hBit] at hRun
    have hAsk : named.ask (.releaseResult r) = _ :=
      Measured.ask_eq (Request.run_releaseResult hRun)
    rw [hAsk, hAsk']
    exact ⟨rfl, hSame.released hName⟩

/- Results that may be used are compared and read alike. -/
theorem askedInterchangeably_areEqualResults
    (hSame : Interchangeable named named')
    {r₁ r₂ : ResultId}
    (hUsable₁ : named.Usable r₁)
    (hUsable₂ : named.Usable r₂) :
    AskedInterchangeably (.areEqualResults r₁ r₂) named named' := by
  rcases hSame.exists_outcomeOf hUsable₁ with
    ⟨bit₁, hFirst, hFirst'⟩
  rcases hSame.exists_outcomeOf hUsable₂ with
    ⟨bit₂, hSecond, hSecond'⟩
  have hValue :
      named.backend.areEqualResults (named.result r₁)
          (named.result r₂) = .ok (bit₁ = bit₂) := by
    rw [areEqualResults_of_tracked hSame.tracked]
    exact compareOutcomes_of_outcomeOf hFirst hSecond
  have hValue' :
      named'.backend.areEqualResults (named'.result r₁)
          (named'.result r₂) = .ok (bit₁ = bit₂) := by
    rw [hFirst', hSecond', areEqualResults, hSame.canonical]
    exact congrArg Except.ok (ResultId.decide_ofBool_eq bit₁ bit₂)
  exact hSame.unchanged (fun _ _ => rfl)
    (Request.run_areEqualResults hValue)
    (Request.run_areEqualResults hValue')

theorem askedInterchangeably_resultValue
    (hSame : Interchangeable named named')
    {r : ResultId}
    (hUsable : named.Usable r) :
    AskedInterchangeably (.resultValue r) named named' := by
  rcases hSame.exists_outcomeOf hUsable with ⟨bit, hOwn, hOther⟩
  have hValue :
      named.backend.value "result_value" (named.result r) =
        .ok bit :=
    readOutcome_of_outcomeOf hOwn "result_value"
  have hValue' :
      named'.backend.value "result_value" (named'.result r) =
        .ok bit := by
    rw [hOther]
    exact readOutcome_of_outcomeOf (outcomeOf_ofBool _ bit)
      "result_value"
  exact hSame.unchanged (fun _ _ => rfl)
    (Request.run_resultValue hValue) (Request.run_resultValue hValue')

/-
  Whatever is asked with usable names, both answer the same and
  stay interchangeable.
-/
theorem askedInterchangeably
    (request : Request R)
    (named named' : Measured (Toffoli R))
    (hSame : Interchangeable named named')
    (hUsable : ∀ r ∈ request.results, named.Usable r) :
    AskedInterchangeably request named named' := by
  cases request with
  | measure bases targets =>
      exact askedInterchangeably_measure hSame bases targets
  | areEqualResults r₁ r₂ =>
      exact askedInterchangeably_areEqualResults hSame
        (hUsable r₁ List.mem_cons_self)
        (hUsable r₂ (List.mem_cons_of_mem r₁ List.mem_cons_self))
  | releaseResult r =>
      exact askedInterchangeably_releaseResult hSame
        (hUsable r List.mem_cons_self)
  | resultValue r =>
      exact askedInterchangeably_resultValue hSame
        (hUsable r List.mem_cons_self)
  | _ =>
      exact askedInterchangeably_of_actsOnQubits hSame trivial

end

------------------------------------------------------------
-- The two modes
------------------------------------------------------------

/-
  A client that names results by their measurements and uses
  none after its release sees the same answers in both result
  modes, from simulators of one name, as errors repeat it. After
  each of them the simulators differ in nothing but the results
  that they keep and the mode, so the qubits have the same bits.
-/
theorem result_modes_are_interchangeable
    [Scalar R]
    (sim sim' : Toffoli R)
    (client : Client R)
    (hFresh : sim.Fresh)
    (hFresh' : sim'.Fresh)
    (hTracked : sim.mode = .tracked)
    (hCanonical : sim'.mode = .canonical)
    (hName : sim'.name = sim.name)
    (hReuse : sim'.qubits.free.isSome = sim.qubits.free.isSome)
    (hRespects : client.RespectsResults (.start sim)) :
    List.Forall₂
      (fun step step' =>
        step'.1 = step.1 ∧
          step'.2.backend =
            { step.2.backend with
              results := step'.2.backend.results
              mode := .canonical })
      (client.resultTrace (.start sim))
      (client.resultTrace (.start sim')) := by
  have hQubits : sim'.qubits = sim.qubits := by
    rcases hFresh.untouched.qubits_eq with ⟨recycle, hOwn⟩
    rcases hFresh'.untouched.qubits_eq with ⟨recycle', hOther⟩
    rw [hOwn, hOther] at hReuse ⊢
    cases recycle <;> cases recycle' <;>
      first | rfl | cases hReuse
  have hStart :=
    Interchangeable.start hFresh hTracked hCanonical hName hQubits
  refine (client.forall₂_resultTrace askedInterchangeably hStart
    hRespects).imp ?_
  rintro step step' ⟨hAnswer, hAfter⟩
  exact ⟨hAnswer, hAfter.recast_eq⟩

/-
  A client measures a one and a zero, compares them with each
  other and with a constant, releases the first and goes on with
  the second.
-/
theorem result_modes_agree_on_two_measurements :
    let tracked : Toffoli Float := start .tracked
    let canonical : Toffoli Float := start .canonical
    let client : Client Float :=
      .ofRequests
        [.allocateQubit, .apply .x ⟨0⟩, .measure [.z] [⟨0⟩],
          .releaseQubit ⟨0⟩, .measure [.z] [⟨0⟩], .allocateQubit,
          .measure [.z] [⟨1⟩], .areEqualResults ⟨2⟩ ⟨3⟩,
          .areEqualResults ⟨2⟩ ResultId.one, .releaseResult ⟨2⟩,
          .resultValue ⟨3⟩]
    List.Forall₂
      (fun step step' =>
        step'.1 = step.1 ∧
          step'.2.backend =
            { step.2.backend with
              results := step'.2.backend.results
              mode := .canonical })
      (client.resultTrace (.start tracked))
      (client.resultTrace (.start canonical)) := by
  intro tracked canonical client
  refine result_modes_are_interchangeable tracked canonical client
    (.start .tracked) (.start .canonical) rfl rfl rfl rfl ?_
  simp only [client, Client.ofRequests, Client.RespectsResults,
    Measured.Usable]
  decide

end Toffoli

end QuantumRuntime

import QuantumRuntime.Proofs.OverlookedChanges
import QuantumRuntime.Proofs.Simulator.CircuitDepth
import QuantumRuntime.Proofs.Simulator.Counting
import QuantumRuntime.Proofs.Simulator.Refusals

/-
  This file proves that the metrics of the tracer are an exact
  account of what it was asked: each count is the number of
  requests of its kind that were accepted, and the width is that
  of the moment with the most live qubits. The account can be
  split: metrics that are taken in between add up to those of
  the undivided run.

  Key definitions include:
    * `acceptedCount`
    * `widths`
    * `Tracer.Attended`
    * `MeteredStep`
    * `Tracer.runMetered`
    * `Tracer.resumed`

  Key theorems include:
    * `Tracer.counter_run`
    * `Tracer.Attended.run`
    * `Tracer.overlooks_applyControlled`
    * `Tracer.resumed_morphism`
    * `Tracer.runRequests_resumed`
    * `Tracer.metrics_account_for_run`
-/

namespace QuantumRuntime

variable {R : Type}

------------------------------------------------------------
-- Kinds of request
------------------------------------------------------------

namespace Request

/- A gate of a name, without controls. -/
def isGateNamed
    (name : String) : Request R → Bool
  | apply g _ => g.name = name
  | _ => false

/- A gate of a name, with controls. -/
def isControlledNamed
    (name : String) : Request R → Bool
  | applyControlled g _ _ => g.name = name
  | _ => false

/- A gate of any name, with or without controls. -/
def isGate : Request R → Bool
  | apply _ _ => true
  | applyControlled _ _ _ => true
  | _ => false

/- A measurement. -/
def isMeasurement : Request R → Bool
  | measure _ _ => true
  | _ => false

/- An allocation. -/
def isAllocation : Request R → Bool
  | allocateQubit => true
  | _ => false

end Request

/- How many requests of a kind a history has accepted. -/
def acceptedCount
    (kind : Request R → Bool)
    (history : List (Exchange R)) : Nat :=
  history.countP fun event => event.2.isOk && kind event.1

section

variable (kind : Request R → Bool)

theorem acceptedCount_append
    (first second : List (Exchange R)) :
    acceptedCount kind (first ++ second) =
      acceptedCount kind first + acceptedCount kind second :=
  List.countP_append

@[simp] theorem acceptedCount_ok
    (request : Request R)
    (reply : Reply) :
    acceptedCount kind [(request, .ok reply)] =
      if kind request then 1 else 0 := by
  simp [acceptedCount, List.countP_singleton, Except.isOk,
    Except.toBool]

@[simp] theorem acceptedCount_error
    (request : Request R)
    (e : BackendError) :
    acceptedCount kind [(request, .error e)] = 0 := by
  simp [acceptedCount, Except.isOk, Except.toBool]

end

namespace Tracer

------------------------------------------------------------
-- Counters
------------------------------------------------------------

/-
  A counter that starts at zero, and that every request raises
  by one when it is accepted and of a kind, is the number of
  accepted requests of that kind after a run.
-/
theorem counter_run
    [Scalar R]
    {counter : Tracer R → Nat}
    {kind : Request R → Bool}
    (hStep :
      ∀ (tracer after : Tracer R) (request : Request R)
          (answer : Except BackendError Reply),
        tracer.Effect request answer after →
          counter after =
            counter tracer + acceptedCount kind [(request, answer)])
    {tracer : Tracer R}
    (hZero : counter tracer = 0)
    (requests : List (Request R)) :
    counter (runRequests tracer requests).2 =
      acceptedCount kind
        (requests.zip (runRequests tracer requests).1) := by
  have hStart : counter tracer = acceptedCount kind [] := hZero
  refine runRequests_induction
    (P := fun history b => counter b = acceptedCount kind history)
    ?_ hStart requests
  intro history b request hBefore
  rw [hStep b _ request _ (b.effect request), hBefore,
    acceptedCount_append]

namespace Effect

variable {tracer after : Tracer R}
variable {request : Request R}
variable {answer : Except BackendError Reply}

theorem number_gateCounts
    (name : String)
    (hEffect : tracer.Effect request answer after) :
    after.metrics.gateCounts.number name =
      tracer.metrics.gateCounts.number name +
        acceptedCount (Request.isGateNamed name)
          [(request, answer)] := by
  cases hEffect <;>
    simp [Request.isGateNamed, Tracer.allocated, moved, gateCounted,
      controlledCounted, measurementCounted,
      Counts.number_increment, eq_comm]

theorem number_controlledCounts
    (name : String)
    (hEffect : tracer.Effect request answer after) :
    after.metrics.controlledCounts.number name =
      tracer.metrics.controlledCounts.number name +
        acceptedCount (Request.isControlledNamed name)
          [(request, answer)] := by
  cases hEffect <;>
    simp [Request.isControlledNamed, Tracer.allocated, moved,
      gateCounted, controlledCounted, measurementCounted,
      Counts.number_increment, eq_comm]

theorem totalGates_eq
    (hEffect : tracer.Effect request answer after) :
    after.metrics.totalGates =
      tracer.metrics.totalGates +
        acceptedCount Request.isGate [(request, answer)] := by
  cases hEffect <;>
    simp [Request.isGate, Metrics.totalGates, Tracer.allocated,
      moved, gateCounted, controlledCounted, measurementCounted,
      Counts.total_increment, Nat.add_assoc, Nat.add_comm 1]

theorem measurements_eq
    (hEffect : tracer.Effect request answer after) :
    after.metrics.measurements =
      tracer.metrics.measurements +
        acceptedCount Request.isMeasurement [(request, answer)] := by
  cases hEffect <;>
    simp [Request.isMeasurement, Tracer.allocated, moved,
      gateCounted, controlledCounted, measurementCounted]

theorem qubitsAllocated_eq
    (hEffect : tracer.Effect request answer after) :
    after.metrics.qubitsAllocated =
      tracer.metrics.qubitsAllocated +
        acceptedCount Request.isAllocation [(request, answer)] := by
  cases hEffect <;>
    simp [Request.isAllocation, Tracer.allocated, moved,
      gateCounted, controlledCounted, measurementCounted]

/- Counts are positive after an operation when they were before. -/
theorem positive_gateCounts
    (hPositive : tracer.metrics.gateCounts.Positive)
    (hEffect : tracer.Effect request answer after) :
    after.metrics.gateCounts.Positive := by
  cases hEffect with
  | applied g target layer hLive => exact hPositive.increment g.name
  | _ => exact hPositive

theorem positive_controlledCounts
    (hPositive : tracer.metrics.controlledCounts.Positive)
    (hEffect : tracer.Effect request answer after) :
    after.metrics.controlledCounts.Positive := by
  cases hEffect with
  | controlled g controls target layer =>
      exact hPositive.increment g.name
  | _ => exact hPositive

end Effect

/- Names that were counted have positive counts after a run. -/
theorem positive_counts_run
    [Scalar R]
    (tracer : Tracer R)
    (hPositive :
      tracer.metrics.gateCounts.Positive ∧
        tracer.metrics.controlledCounts.Positive)
    (requests : List (Request R)) :
    (runRequests tracer requests).2.metrics.gateCounts.Positive ∧
      (runRequests tracer
        requests).2.metrics.controlledCounts.Positive := by
  induction requests generalizing tracer with
  | nil => exact hPositive
  | cons request rest ih =>
      have hEffect := tracer.effect request
      exact ih _
        ⟨hEffect.positive_gateCounts hPositive.1,
          hEffect.positive_controlledCounts hPositive.2⟩

end Tracer

------------------------------------------------------------
-- Widths
------------------------------------------------------------

/- How many qubits were live, at each moment of a history. -/
def widths
    (history : List (Exchange R)) : Set Nat :=
  { n |
    ∃ moment,
      moment <+: history ∧
        (Census.ofHistory moment).live.length = n }

theorem widths_concat
    (history : List (Exchange R))
    (event : Exchange R) :
    widths (history ++ [event]) =
      insert (Census.ofHistory (history ++ [event])).live.length
        (widths history) := by
  ext n
  simp only [widths, Set.mem_ofPred_eq, Set.mem_insert_iff,
    List.prefix_concat_iff, or_and_right, exists_or,
    exists_eq_left, eq_comm]

namespace Tracer

/- Only an allocation makes a tracer wider than it was. -/
theorem Effect.peakWidth_eq
    {tracer after : Tracer R}
    {request : Request R}
    {answer : Except BackendError Reply}
    (hWide :
      tracer.qubits.liveCount ≤ tracer.metrics.peakWidth)
    (hEffect : tracer.Effect request answer after) :
    after.metrics.peakWidth =
      max after.qubits.liveCount tracer.metrics.peakWidth := by
  have hMoved :
      ∀ qs layer,
        (tracer.moved qs layer).qubits.liveCount ≤
          tracer.metrics.peakWidth :=
    fun qs layer =>
      (tracer.qubits.liveCount_overwriteAll qs layer).le.trans hWide
  cases hEffect with
  | allocated => exact Nat.max_comm _ _
  | released q hLive =>
      exact (Nat.max_eq_right ((Nat.sub_le _ 1).trans hWide)).symm
  | applied g target layer hLive =>
      exact (Nat.max_eq_right (hMoved _ _)).symm
  | controlled g controls target layer hLive =>
      exact (Nat.max_eq_right (hMoved _ _)).symm
  | measured bases targets basis target layer hSingle hLive =>
      exact (Nat.max_eq_right (hMoved _ _)).symm
  | _ => exact (Nat.max_eq_right hWide).symm

/-
  The tables of a tracer are those that its history tells of,
  and its width is that of the widest moment.
-/
structure Attended
    (history : List (Exchange R))
    (tracer : Tracer R) : Prop where
  coherent : tracer.holdings.Coherent
  agrees : (Census.ofHistory history).Agrees tracer.holdings.qubits
  nodup : (Census.ofHistory history).live.Nodup
  peakWidth : IsGreatest (widths history) tracer.metrics.peakWidth

namespace Attended

variable {history : List (Exchange R)}
variable {tracer : Tracer R}

/- Nothing is live in a new tracer. -/
theorem start
    (name : String) :
    Attended ([] : List (Exchange R))
      { (start : Tracer R) with name := name } where
  coherent := Holdings.coherent_ofTables_make false
  agrees :=
    (Census.agrees_shape_iff _ _).mpr (Census.agrees_start false)
  nodup := List.nodup_nil
  peakWidth := by
    refine ⟨⟨[], List.nil_prefix, rfl⟩, ?_⟩
    rintro n ⟨moment, hMoment, rfl⟩
    rw [List.prefix_nil.mp hMoment]
    exact Nat.le_refl 0

/- The qubits that the history lists are those of the table. -/
theorem length_live
    (hAttended : Attended history tracer) :
    (Census.ofHistory history).live.length =
      tracer.qubits.liveCount :=
  hAttended.agrees.length_live hAttended.coherent.qubits
    hAttended.nodup

variable [Scalar R]

/- Every request is attended to. -/
theorem step
    (hAttended : Attended history tracer)
    (request : Request R) :
    Attended (history ++ [(request, (request.run.perform tracer).1)])
      (request.run.perform tracer).2 := by
  have hStep := Tracer.step request tracer
  have hAgrees := hAttended.agrees.step hAttended.coherent hStep
  have hNodup :=
    hAttended.agrees.nodup_live hAttended.coherent hStep
      hAttended.nodup
  have hCoherent := hStep.coherent hAttended.coherent
  have hWide : tracer.qubits.liveCount ≤ tracer.metrics.peakWidth :=
    hAttended.peakWidth.2
      ⟨history, List.prefix_rfl, hAttended.length_live⟩
  constructor
  case coherent => exact hCoherent
  case agrees =>
    rw [Census.ofHistory_concat]
    exact hAgrees
  case nodup =>
    rw [Census.ofHistory_concat]
    exact hNodup
  case peakWidth =>
    have hWidth :=
      hAgrees.length_live hCoherent.qubits hNodup
    rw [widths_concat, Census.ofHistory_concat, hWidth,
      (tracer.effect request).peakWidth_eq hWide]
    exact hAttended.peakWidth.insert _

/- So is every run. -/
theorem run
    (hAttended : Attended history tracer)
    (requests : List (Request R)) :
    Attended (history ++ requests.zip (runRequests tracer requests).1)
      (runRequests tracer requests).2 :=
  runRequests_induction
    (fun _ _ request hBefore => hBefore.step request) hAttended
    requests

end Attended

end Tracer

------------------------------------------------------------
-- Taking metrics in between
------------------------------------------------------------

/- What a program may do with a tracer that it meters. -/
inductive MeteredStep (R : Type)
  | ask (request : Request R)
  | takeMetrics

/- What is asked of the tracer in some steps. -/
def MeteredStep.requests
    (steps : List (MeteredStep R)) : List (Request R) :=
  steps.filterMap fun
    | ask request => some request
    | takeMetrics => none

namespace Tracer

open QuantumRuntime.Action (overlooks_pure overlooks_query
  overlooks_modify overlooks_get_bind overlooks_modify_bind
  overlooks_ofExcept_bind overlooks_forM)

/-
  Take some steps. This gives the answers to what was asked, the
  metrics that were taken, and the tracer that is left.
-/
def runMetered
    [Scalar R]
    (tracer : Tracer R) :
    List (MeteredStep R) →
      List (Except BackendError Reply) × List Metrics × Tracer R
  | [] => ([], [], tracer)
  | .ask request :: rest =>
      let (answer, after) := request.run.perform tracer
      let (answers, taken, last) := runMetered after rest
      (answer :: answers, taken, last)
  | .takeMetrics :: rest =>
      let (metrics, after) := takeMetrics.perform tracer
      let (answers, taken, last) := runMetered after rest
      (answers, metrics.toOption.toList ++ taken, last)

/- A tracer with what was counted before it started again. -/
def resumed
    (earlier : Metrics)
    (tracer : Tracer R) : Tracer R :=
  { tracer with metrics := earlier.combine tracer.metrics }

/-
  Each operation looks at the qubits only, and counts by adding
  and by taking the larger of two numbers. So it does the same
  whatever was counted before.
-/
section

variable (earlier : Metrics) (tracer : Tracer R)

theorem overlooks_schedule
    (layer : Nat) :
    (schedule layer).Overlooks (resumed earlier) tracer := by
  apply overlooks_modify
  simp [resumed, Metrics.combine, max_assoc]

theorem overlooks_placeAt
    (operation : String)
    (layer : Nat)
    (q : QubitId) :
    (placeAt operation layer q).Overlooks (resumed earlier) tracer := by
  apply overlooks_get_bind rfl
  exact overlooks_ofExcept_bind fun _ _ => overlooks_modify rfl

theorem overlooks_advance
    (operation : String)
    (q : QubitId) :
    (advance operation q).Overlooks (resumed earlier) tracer := by
  apply overlooks_get_bind rfl
  refine overlooks_ofExcept_bind fun layer _ => ?_
  exact (overlooks_placeAt earlier tracer operation _ q).bind
    fun _ _ _ => overlooks_schedule earlier _ _

theorem overlooks_allocateQubit :
    allocateQubit.Overlooks (resumed earlier) tracer := by
  apply overlooks_get_bind rfl
  refine overlooks_modify_bind ?_ (overlooks_pure _)
  simp [resumed, Metrics.combine, Nat.add_assoc, max_assoc]

theorem overlooks_releaseQubit
    (q : QubitId) :
    (releaseQubit q).Overlooks (resumed earlier) tracer := by
  apply overlooks_get_bind rfl
  exact overlooks_ofExcept_bind fun _ _ => overlooks_modify rfl

theorem overlooks_apply
    (g : Gate R)
    (target : QubitId) :
    (apply g target).Overlooks (resumed earlier) tracer := by
  refine (overlooks_advance earlier tracer "apply" target).bind
    fun _ _ _ => ?_
  apply overlooks_modify
  simp [resumed, Metrics.combine, Counts.add_increment]

theorem overlooks_applyControlled
    (g : Gate R)
    (controls : List QubitId)
    (target : QubitId) :
    (applyControlled g controls target).Overlooks (resumed earlier)
      tracer := by
  apply overlooks_get_bind rfl
  refine overlooks_ofExcept_bind fun own _ => ?_
  refine overlooks_ofExcept_bind fun last _ => ?_
  refine overlooks_ofExcept_bind fun _ _ => ?_
  have hPlaced (q : QubitId) (tracer : Tracer R) :=
    overlooks_placeAt earlier tracer "apply_controlled" (last + 1) q
  refine (overlooks_forM hPlaced _).bind fun _ _ _ => ?_
  refine (overlooks_schedule earlier _ _).bind fun _ _ _ => ?_
  apply overlooks_modify
  simp [resumed, Metrics.combine, Counts.add_increment]

theorem overlooks_measure
    (bases : List Pauli)
    (targets : List QubitId) :
    (measure bases targets).Overlooks (resumed earlier) tracer := by
  apply overlooks_get_bind rfl
  refine overlooks_ofExcept_bind fun single _ => ?_
  refine (overlooks_advance earlier tracer "measure" single.2).bind
    fun _ _ _ => ?_
  refine overlooks_modify_bind ?_ (overlooks_pure _)
  simp [resumed, Metrics.combine, Nat.add_assoc]

end

/-
  What was counted before makes no difference to the answers,
  and what is counted now is added to it.
-/
theorem resumed_morphism
    [Scalar R]
    (earlier : Metrics) :
    Backend.Morphism (resumed earlier : Tracer R → Tracer R) where
  name_eq _ := rfl
  zeroResult_eq _ := rfl
  oneResult_eq _ := rfl
  run_eq request tracer := by
    cases request with
    | allocateQubit =>
        exact (overlooks_allocateQubit earlier tracer).map _
    | releaseQubit q =>
        exact (overlooks_releaseQubit earlier tracer q).map _
    | apply g target =>
        exact (overlooks_apply earlier tracer g target).map _
    | applyControlled g controls target =>
        exact (overlooks_applyControlled earlier tracer g controls
          target).map _
    | measure bases targets =>
        exact (overlooks_measure earlier tracer bases targets).map _
    | areEqualResults r₁ r₂ => exact (overlooks_query rfl).map _
    | releaseResult r => exact (overlooks_pure _).map _
    | resultValue r => exact (overlooks_query rfl).map _

/- Metrics that are taken count like those of earlier parts. -/
theorem resumed_started_again
    (earlier : Metrics)
    (tracer : Tracer R) :
    resumed (earlier.combine tracer.metrics)
        { tracer with metrics := Metrics.zero } =
      tracer.resumed earlier := by
  rw [resumed, Metrics.combine_zero, resumed]

/-
  Taking metrics in between makes no difference to the answers
  nor to the qubits, and all that was taken adds up.
-/
theorem runRequests_resumed
    [Scalar R]
    (steps : List (MeteredStep R))
    (earlier : Metrics)
    (tracer : Tracer R) :
    let metered := tracer.runMetered steps
    runRequests (tracer.resumed earlier)
        (MeteredStep.requests steps) =
      (metered.1,
        metered.2.2.resumed
          (metered.2.1.foldl Metrics.combine earlier)) := by
  induction steps generalizing earlier tracer with
  | nil => rfl
  | cons step rest ih =>
      cases step with
      | ask request =>
          rw [show MeteredStep.requests (.ask request :: rest) =
              request :: MeteredStep.requests rest
            from rfl,
            runRequests_cons, (resumed_morphism earlier).run_eq,
            ih earlier]
          rfl
      | takeMetrics =>
          rw [← resumed_started_again earlier tracer]
          exact ih (earlier.combine tracer.metrics)
            { tracer with metrics := Metrics.zero }

/-
  The metrics that were taken while a new tracer was used, and
  those that it has in the end, are together the metrics of the
  same requests without taking any.
-/
theorem combineAll_runMetered
    [Scalar R]
    (name : String)
    (steps : List (MeteredStep R)) :
    let tracer : Tracer R := { (start : Tracer R) with name := name }
    let metered := tracer.runMetered steps
    runRequests tracer (MeteredStep.requests steps) =
      (metered.1,
        { metered.2.2 with
          metrics :=
            Metrics.combineAll
              (metered.2.1 ++ [metered.2.2.metrics]) }) := by
  intro tracer metered
  have hRun := runRequests_resumed steps Metrics.zero tracer
  have hStart : tracer.resumed Metrics.zero = tracer := by
    rw [resumed, Metrics.zero_combine]
  rw [hStart] at hRun
  rw [hRun, Metrics.combineAll, List.foldl_append]
  rfl

------------------------------------------------------------
-- The account
------------------------------------------------------------

/-
  Whatever a new tracer is asked, its metrics are an account of
  the requests that it accepted, by kind and by name, and of the
  widest moment. Refused requests contribute nothing. However
  often metrics are taken in between, they add up to the same
  account, and the answers stay the same.
-/
theorem metrics_account_for_run
    [Scalar R]
    (name : String)
    (requests : List (Request R)) :
    let tracer : Tracer R := { (start : Tracer R) with name := name }
    let run := runRequests tracer requests
    let history : List (Exchange R) := requests.zip run.1
    let metrics := run.2.metrics
    (∀ gate n,
        metrics.gateCounts[gate]? = some n ↔
          0 < n ∧
            n = acceptedCount (Request.isGateNamed gate) history) ∧
      (∀ gate n,
        metrics.controlledCounts[gate]? = some n ↔
          0 < n ∧
            n =
              acceptedCount (Request.isControlledNamed gate)
                history) ∧
      metrics.measurements =
        acceptedCount Request.isMeasurement history ∧
      metrics.qubitsAllocated =
        acceptedCount Request.isAllocation history ∧
      metrics.totalGates = acceptedCount Request.isGate history ∧
      IsGreatest (widths history) metrics.peakWidth ∧
      (runRequests tracer (acceptedRequests tracer requests)).2 =
        run.2 ∧
      ∀ steps : List (MeteredStep R),
        MeteredStep.requests steps = requests →
          (tracer.runMetered steps).1 = run.1 ∧
            Metrics.combineAll
                ((tracer.runMetered steps).2.1 ++
                  [(tracer.runMetered steps).2.2.metrics]) =
              metrics := by
  intro tracer run history metrics
  have hPositive :=
    tracer.positive_counts_run
      ⟨Counts.positive_empty, Counts.positive_empty⟩ requests
  have hAttended : Attended history run.2 :=
    (Attended.start name).run requests
  refine ⟨?_, ?_, ?_, ?_, ?_, hAttended.peakWidth, ?_, ?_⟩
  · intro gate n
    have hNumber :
        metrics.gateCounts.number gate =
          acceptedCount (Request.isGateNamed gate) history :=
      counter_run (fun _ _ _ _ => Effect.number_gateCounts gate)
        (Counts.number_empty gate) requests
    rw [hPositive.1.getElem?_eq_some_iff, hNumber]
  · intro gate n
    have hNumber :
        metrics.controlledCounts.number gate =
          acceptedCount (Request.isControlledNamed gate) history :=
      counter_run (fun _ _ _ _ => Effect.number_controlledCounts gate)
        (Counts.number_empty gate) requests
    rw [hPositive.2.getElem?_eq_some_iff, hNumber]
  · exact counter_run (fun _ _ _ _ => Effect.measurements_eq) rfl
      requests
  · exact counter_run (fun _ _ _ _ => Effect.qubitsAllocated_eq) rfl
      requests
  · exact counter_run (fun _ _ _ _ => Effect.totalGates_eq) rfl
      requests
  · have hAccepted :=
      Builtin.runRequests_acceptedRequests (.tracer tracer) requests
    rw [Builtin.tracer_morphism.acceptedRequests_eq,
      Builtin.tracer_morphism.runRequests_eq,
      Builtin.tracer_morphism.runRequests_eq] at hAccepted
    exact Builtin.tracer.inj (congrArg Prod.snd hAccepted)
  · rintro steps rfl
    have hMetered := combineAll_runMetered name steps
    exact
      ⟨(congrArg Prod.fst hMetered).symm,
        congrArg (fun run => run.2.metrics) hMetered.symm⟩

end Tracer

end QuantumRuntime

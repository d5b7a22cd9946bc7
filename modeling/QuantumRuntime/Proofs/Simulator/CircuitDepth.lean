import QuantumRuntime.Proofs.Backend.Dependencies
import QuantumRuntime.Proofs.Simulator.LayerEffects
import QuantumRuntime.Proofs.Simulator.Objections

/-
  This file proves that the depth which the tracer reports is
  the length of the longest chain of dependencies in what it was
  asked. The tracer keeps one layer for each live qubit, and
  puts an operation into the layer after the last one that any
  of its qubits is in. That layer is the length of the longest
  chain that ends in the operation.

  Key definitions include:
    * `Tracer.Layered`

  Key theorems include:
    * `Tracer.Layered.moved`
    * `Tracer.Layered.step`
    * `Tracer.Layered.run`
    * `Tracer.layers_are_longest_chains`
-/

namespace QuantumRuntime

variable {R : Type}

------------------------------------------------------------
-- Qubits of accepted operations
------------------------------------------------------------

namespace Exchange

@[simp] theorem touches_apply_iff
    (g : Gate R)
    (target : QubitId)
    (reply : Reply)
    (q : QubitId) :
    Touches (.apply g target, .ok reply) q ↔ q ∈ [target] :=
  and_iff_right ⟨trivial, rfl⟩

@[simp] theorem touches_applyControlled_iff
    (g : Gate R)
    (controls : List QubitId)
    (target : QubitId)
    (reply : Reply)
    (q : QubitId) :
    Touches (.applyControlled g controls target, .ok reply) q ↔
      q ∈ controls ++ [target] := by
  have hTouches :
      Touches (.applyControlled g controls target, .ok reply) q ↔
        q ∈ target :: controls :=
    and_iff_right ⟨trivial, rfl⟩
  rw [hTouches, List.mem_cons, List.mem_append,
    List.mem_singleton, or_comm]

@[simp] theorem touches_measure_iff
    (bases : List Pauli)
    (targets : List QubitId)
    (reply : Reply)
    (q : QubitId) :
    Touches (R := R) (.measure bases targets, .ok reply) q ↔
      q ∈ targets :=
  and_iff_right ⟨trivial, rfl⟩

end Exchange

namespace Tracer

------------------------------------------------------------
-- The last layer of some qubits
------------------------------------------------------------

theorem le_latestLayer
    (qubits : HandleTable QubitId Nat)
    (layer : Nat)
    (controls : List QubitId) :
    layer ≤ latestLayer qubits layer controls := by
  induction controls generalizing layer with
  | nil => exact Nat.le_refl layer
  | cons c rest ih => exact (Nat.le_max_left _ _).trans (ih _)

/- No control is in a later layer. -/
theorem layer_le_latestLayer
    {qubits : HandleTable QubitId Nat}
    {controls : List QubitId}
    {c : QubitId}
    {own : Nat}
    (hMem : c ∈ controls)
    (hOwn : qubits.get? c = some own)
    (layer : Nat) :
    own ≤ latestLayer qubits layer controls := by
  induction controls generalizing layer with
  | nil => cases hMem
  | cons first rest ih =>
      rcases List.mem_cons.mp hMem with rfl | hRest
      · refine Nat.le_trans ?_ (le_latestLayer qubits _ rest)
        simp only [hOwn, Option.getD_some]
        exact Nat.le_max_right layer own
      · exact ih hRest _

/- The last layer is the given one or that of a control. -/
theorem latestLayer_attained
    {qubits : HandleTable QubitId Nat}
    {controls : List QubitId}
    (hLive : ∀ c ∈ controls, qubits.Live c)
    (layer : Nat) :
    latestLayer qubits layer controls = layer ∨
      ∃ c ∈ controls,
        qubits.get? c = some (latestLayer qubits layer controls) := by
  induction controls generalizing layer with
  | nil => exact .inl rfl
  | cons first rest ih =>
      rcases List.forall_mem_cons.mp hLive with ⟨hFirst, hRest⟩
      rcases (qubits.live_iff first).mp hFirst with ⟨own, hOwn⟩
      have hNext :
          latestLayer qubits layer (first :: rest) =
            latestLayer qubits (max layer own) rest := by
        simp [latestLayer, hOwn]
      rw [hNext]
      rcases ih hRest (max layer own) with
        hSame | ⟨c, hMem, hLayer⟩
      · rw [hSame]
        rcases max_choice layer own with hMax | hMax
        · exact .inl hMax
        · rw [hMax]
          exact .inr ⟨first, List.mem_cons_self, hOwn⟩
      · exact .inr ⟨c, List.mem_cons_of_mem first hMem, hLayer⟩

------------------------------------------------------------
-- Layers and chains
------------------------------------------------------------

/-
  The layer of each live qubit is the length of the longest
  chains at it, and the depth that of the longest chains of all.
  No handle is issued twice, so a new qubit was never touched.
-/
structure Layered
    (history : List (Exchange R))
    (tracer : Tracer R) : Prop where
  coherent : tracer.qubits.Coherent
  free_eq : tracer.qubits.free = none
  issued :
    ∀ event ∈ history, ∀ q,
      event.Touches q → tracer.qubits.Issued q
  layer :
    ∀ q layer, tracer.qubits.get? q = some layer →
      IsGreatest (chainLengthsAt history q) layer
  depth :
    IsGreatest (chainLengths history) tracer.metrics.depth

namespace Layered

variable {history : List (Exchange R)}
variable {tracer after : Tracer R}
variable {event : Exchange R}

/- A new tracer has one chain, the empty one. -/
theorem start
    (name : String) :
    Layered ([] : List (Exchange R))
      { (start : Tracer R) with name := name } := by
  constructor
  case coherent => exact HandleTable.coherent_make false 0
  case free_eq => rfl
  case issued => simp
  case layer =>
    intro q layer hLive
    have hDead := HandleTable.get?_make (V := Nat) false 0 q
    cases hDead.symm.trans hLive
  case depth =>
    refine ⟨⟨[], isDependencyChain_nil [], rfl⟩, ?_⟩
    rintro n ⟨chain, hChain, rfl⟩
    rw [List.sublist_nil.mp hChain.sublist]
    exact Nat.le_refl 0

/- Only the layers and the depth matter. -/
theorem of_same
    (hLayered : Layered history tracer)
    (hQubits : after.qubits = tracer.qubits)
    (hDepth : after.metrics.depth = tracer.metrics.depth) :
    Layered history after := by
  rcases hLayered with ⟨hCoherent, hFree, hIssued, hLayer, hMax⟩
  rw [← hQubits] at hCoherent hFree hIssued hLayer
  rw [← hDepth] at hMax
  exact ⟨hCoherent, hFree, hIssued, hLayer, hMax⟩

/- What is no event leaves all layers where they are. -/
theorem unmoved
    (hLayered : Layered history tracer)
    (hEvent : ¬ event.IsEvent) :
    Layered (history ++ [event]) tracer where
  coherent := hLayered.coherent
  free_eq := hLayered.free_eq
  issued := by
    intro other hMem q hTouches
    rcases List.mem_append.mp hMem with hOld | hNew
    · exact hLayered.issued other hOld q hTouches
    · cases List.mem_singleton.mp hNew
      exact absurd hTouches.1 hEvent
  layer := by
    intro q layer hLive
    rw [chainLengthsAt_concat_of_not_touches fun hTouches =>
      hEvent hTouches.1]
    exact hLayered.layer q layer hLive
  depth := by
    rw [chainLengths_concat_of_not_isEvent hEvent]
    exact hLayered.depth

/- A new qubit is in layer zero, for nothing has touched it. -/
theorem allocated
    (hLayered : Layered history tracer) :
    Layered history tracer.allocated where
  coherent := hLayered.coherent.insert 0
  free_eq := by
    rw [← Option.not_isSome_iff_eq_none, Tracer.allocated,
      HandleTable.isSome_free_insert, hLayered.free_eq]
    exact Bool.false_ne_true
  issued := by
    intro event hMem q hTouches
    exact (hLayered.coherent.issued_insert_iff 0 q).mpr
      (.inr (hLayered.issued event hMem q hTouches))
  layer := by
    intro q layer hLive
    rw [Tracer.allocated, hLayered.coherent.get?_insert] at hLive
    split at hLive
    · next hNew =>
        cases hLive
        apply isGreatest_chainLengthsAt_of_untouched
        intro event hMem hTouches
        apply tracer.qubits.not_issued_insert_fst hLayered.free_eq 0
        rw [← hNew]
        exact hLayered.issued event hMem q hTouches
    · exact hLayered.layer q layer hLive
  depth := hLayered.depth

/- Releasing a qubit does not move the others. -/
theorem released
    (hLayered : Layered history tracer)
    {q : QubitId}
    (hLive : tracer.qubits.Live q) :
    Layered history
      { tracer with qubits := tracer.qubits.without q } := by
  rcases (tracer.qubits.live_iff q).mp hLive with ⟨own, hOwn⟩
  have hIssued := HandleTable.issued_of_get?_eq_some _ hOwn
  constructor
  case coherent => exact hLayered.coherent.without hOwn
  case free_eq =>
    rw [← Option.not_isSome_iff_eq_none,
      HandleTable.isSome_free_without, hLayered.free_eq]
    exact Bool.false_ne_true
  case issued =>
    intro event hMem other hTouches
    rw [HandleTable.issued_without_iff]
    exact hLayered.issued event hMem other hTouches
  case layer =>
    intro other layer hOther
    rw [HandleTable.get?_without hIssued] at hOther
    split at hOther
    · cases hOther
    · exact hLayered.layer other layer hOther
  case depth => exact hLayered.depth

/- The last layer of the qubits of an event is its longest past. -/
theorem isLatestAt
    (hLayered : Layered history tracer)
    {qs : List QubitId}
    {n : Nat}
    (hTouches : ∀ q, event.Touches q ↔ q ∈ qs)
    (hLive : ∀ q ∈ qs, tracer.qubits.Live q)
    (hLast : ∃ q ∈ qs, tracer.qubits.get? q = some n)
    (hBound :
      ∀ q ∈ qs, ∀ layer,
        tracer.qubits.get? q = some layer → layer ≤ n) :
    IsLatestAt history event n := by
  constructor
  case le =>
    intro q hOwn m hLength
    have hMem := (hTouches q).mp hOwn
    rcases (tracer.qubits.live_iff q).mp (hLive q hMem) with
      ⟨layer, hLayer⟩
    exact ((hLayered.layer q layer hLayer).2 hLength).trans
      (hBound q hMem layer hLayer)
  case attained =>
    rcases hLast with ⟨q, hMem, hLayer⟩
    exact ⟨q, (hTouches q).mpr hMem,
      (hLayered.layer q n hLayer).1⟩

/-
  An event moves its qubits into the layer after the last one
  that any of them is in, and its longest chains grow by one.
-/
theorem moved
    (hLayered : Layered history tracer)
    {qs : List QubitId}
    {n : Nat}
    (hTouches : ∀ q, event.Touches q ↔ q ∈ qs)
    (hLive : ∀ q ∈ qs, tracer.qubits.Live q)
    (hLast : ∃ q ∈ qs, tracer.qubits.get? q = some n)
    (hBound :
      ∀ q ∈ qs, ∀ layer,
        tracer.qubits.get? q = some layer → layer ≤ n) :
    Layered (history ++ [event]) (tracer.moved qs (n + 1)) := by
  have hShape := HandleTable.shape_overwriteAll hLive (n + 1)
  have hLatest := hLayered.isLatestAt hTouches hLive hLast hBound
  constructor
  case coherent =>
    exact HandleTable.coherent_of_shape_eq hShape hLayered.coherent
  case free_eq =>
    exact (congrArg HandleTable.free hShape).trans hLayered.free_eq
  case issued =>
    intro other hMem q hOther
    rw [Tracer.moved, HandleTable.issued_iff_of_shape_eq hShape]
    rcases List.mem_append.mp hMem with hOld | hNew
    · exact hLayered.issued other hOld q hOther
    · cases List.mem_singleton.mp hNew
      rcases (tracer.qubits.live_iff q).mp
          (hLive q ((hTouches q).mp hOther)) with ⟨layer, hLayer⟩
      exact HandleTable.issued_of_get?_eq_some _ hLayer
  case layer =>
    intro q layer hAfter
    rw [Tracer.moved, HandleTable.get?_overwriteAll hLive] at hAfter
    split at hAfter
    · next hMem =>
        cases hAfter
        exact isGreatest_chainLengthsAt_concat hLatest
          ((hTouches q).mpr hMem)
    · next hOther =>
        rw [chainLengthsAt_concat_of_not_touches
          (mt (hTouches q).mp hOther)]
        exact hLayered.layer q layer hAfter
  case depth =>
    exact isGreatest_chainLengths_concat hLatest hLayered.depth

/- An event on one qubit moves it into its next layer. -/
theorem advanced
    (hLayered : Layered history tracer)
    {q : QubitId}
    {layer : Nat}
    (hTouches : ∀ other, event.Touches other ↔ other ∈ [q])
    (hLive : tracer.qubits.get? q = some layer) :
    Layered (history ++ [event]) (tracer.moved [q] (layer + 1)) := by
  refine hLayered.moved hTouches ?_
    ⟨q, List.mem_singleton_self q, hLive⟩ ?_
  · intro other hMem
    cases List.mem_singleton.mp hMem
    exact (tracer.qubits.live_iff q).mpr ⟨layer, hLive⟩
  · intro other hMem own hOwn
    cases List.mem_singleton.mp hMem
    exact (Option.some.inj (hOwn.symm.trans hLive)).le

/- A controlled gate moves its qubits behind the last of them. -/
theorem advancedTogether
    (hLayered : Layered history tracer)
    {controls : List QubitId}
    {target : QubitId}
    {layer : Nat}
    (hTouches :
      ∀ other, event.Touches other ↔ other ∈ controls ++ [target])
    (hLive : tracer.qubits.get? target = some layer)
    (hControls : ∀ c ∈ controls, tracer.qubits.Live c) :
    Layered (history ++ [event])
      (tracer.moved (controls ++ [target])
        (latestLayer tracer.qubits layer controls + 1)) := by
  have hTarget : target ∈ controls ++ [target] := by simp
  refine hLayered.moved hTouches ?_ ?_ ?_
  · intro q hMem
    rcases List.mem_append.mp hMem with hControl | hSelf
    · exact hControls q hControl
    · cases List.mem_singleton.mp hSelf
      exact (tracer.qubits.live_iff target).mpr ⟨layer, hLive⟩
  · rcases latestLayer_attained hControls layer with
      hOwn | ⟨c, hMem, hLast⟩
    · rw [hOwn]
      exact ⟨target, hTarget, hLive⟩
    · exact ⟨c, List.mem_append_left _ hMem, hLast⟩
  · intro q hMem own hOwn
    rcases List.mem_append.mp hMem with hControl | hSelf
    · exact layer_le_latestLayer hControl hOwn layer
    · cases List.mem_singleton.mp hSelf
      cases hOwn.symm.trans hLive
      exact le_latestLayer tracer.qubits layer controls

------------------------------------------------------------
-- Steps and runs
------------------------------------------------------------

/- Every effect of a request keeps layers and chains together. -/
theorem of_effect
    (hLayered : Layered history tracer)
    {request : Request R}
    {answer : Except BackendError Reply}
    (hEffect : tracer.Effect request answer after) :
    Layered (history ++ [(request, answer)]) after := by
  cases hEffect with
  | refused request e =>
      exact hLayered.unmoved (Exchange.not_isEvent_error request e)
  | allocated => exact hLayered.allocated.unmoved And.left
  | released q hLive => exact (hLayered.released hLive).unmoved And.left
  | applied g target layer hLive =>
      have hMoved :=
        hLayered.advanced (Exchange.touches_apply_iff g target .done)
          hLive
      exact hMoved.of_same rfl rfl
  | controlled g controls target layer hLive hControls =>
      have hMoved :=
        hLayered.advancedTogether
          (Exchange.touches_applyControlled_iff g controls target
            .done)
          hLive hControls
      exact hMoved.of_same rfl rfl
  | measured bases targets basis target layer hSingle hLive =>
      have hTouches :=
        Exchange.touches_measure_iff (R := R) bases targets
          (.result ResultId.zero)
      rw [(singleMeasurement_eq_ok hSingle).2] at hTouches ⊢
      exact (hLayered.advanced hTouches hLive).of_same rfl rfl
  | compared r₁ r₂ => exact hLayered.unmoved And.left
  | resultKept r => exact hLayered.unmoved And.left
  | read r => exact hLayered.unmoved And.left

variable [Scalar R]

/- Every request keeps layers and chains together. -/
theorem step
    (hLayered : Layered history tracer)
    (request : Request R) :
    Layered (history ++ [(request, (request.run.perform tracer).1)])
      (request.run.perform tracer).2 :=
  hLayered.of_effect (tracer.effect request)

/- So does a run. -/
theorem run
    (hLayered : Layered history tracer)
    (requests : List (Request R)) :
    Layered (history ++ requests.zip (runRequests tracer requests).1)
      (runRequests tracer requests).2 :=
  runRequests_induction
    (fun _ _ request hBefore => hBefore.step request) hLayered
    requests

end Layered

/-
  Whatever a new tracer is asked, its depth is the length of the
  longest chain of dependencies, and the layer of a live qubit
  that of the longest chain which ends in the last event that
  touched it, or zero if nothing did. Refused requests, and
  qubits released in between, make no difference to this.
-/
theorem layers_are_longest_chains
    [Scalar R]
    (name : String)
    (requests : List (Request R)) :
    let tracer : Tracer R := { (start : Tracer R) with name := name }
    let run := runRequests tracer requests
    let history : List (Exchange R) := requests.zip run.1
    IsGreatest (chainLengths history) run.2.metrics.depth ∧
      ∀ q layer, run.2.qubits.get? q = some layer →
        ((∀ event ∈ history, ¬ event.Touches q) → layer = 0) ∧
          ∀ (earlier later : List (Exchange R)) (event : Exchange R),
            history = earlier ++ event :: later →
            event.Touches q →
            (∀ other ∈ later, ¬ other.Touches q) →
              IsGreatest (chainLengthsEndingIn earlier event)
                layer := by
  intro tracer run history
  have hLayered : Layered history run.2 :=
    (Layered.start name).run requests
  refine ⟨hLayered.depth, fun q layer hLive => ?_⟩
  have hLayer := hLayered.layer q layer hLive
  constructor
  · intro hUntouched
    exact hLayer.unique
      (isGreatest_chainLengthsAt_of_untouched hUntouched)
  · intro earlier later event hSplit hTouches hLater
    rw [hSplit] at hLayer
    exact isGreatest_chainLengthsEndingIn hTouches hLater hLayer

/-
  Two gates side by side are one layer. The gates behind them
  form a chain although the first qubit is released in between.
-/
example :
    (runRequests (start : Tracer Float)
      [.allocateQubit, .allocateQubit, .allocateQubit,
        .apply .h ⟨0⟩, .apply .h ⟨2⟩,
        .applyControlled .x [⟨0⟩] ⟨1⟩, .releaseQubit ⟨0⟩,
        .applyControlled .x [⟨1⟩] ⟨2⟩]).2.metrics.depth = 3 := by
  decide +kernel

end Tracer

end QuantumRuntime

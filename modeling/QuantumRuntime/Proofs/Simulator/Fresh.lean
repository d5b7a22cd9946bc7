import QuantumRuntime.Simulator.FullState
import QuantumRuntime.Simulator.Toffoli

/-
  This file describes the simulators that runs start from: those
  that were made, with or without settings, and have not been
  asked anything.

  Key definitions include:
    * `FullState.Fresh`
    * `FullState.Untouched`
    * `Toffoli.Fresh`
    * `Toffoli.Untouched`

  Key theorems include:
    * `FullState.ofSettings_eq`
    * `FullState.Fresh.untouched`
    * `Toffoli.ofSettings_eq`
    * `Toffoli.Fresh.untouched`
-/

namespace QuantumRuntime

------------------------------------------------------------
-- Fresh simulators of the full state
------------------------------------------------------------

namespace FullState

variable {R : Type} [Scalar R]

/- A simulator that was made and has not been asked anything. -/
inductive Fresh : FullState R → Prop
  | start
      (draws : Draws R) :
      Fresh (start draws)
  | ofSettings
      (source : DrawSource R)
      (settings : BackendSettings)
      (sim : FullState R)
      (hMade : ofSettings source settings = .ok sim) :
      Fresh sim
  | withQubitReuse
      (sim : FullState R)
      (hFresh : Fresh sim) :
      Fresh sim.withQubitReuse
  | withMaxQubits
      (count : Nat)
      (sim : FullState R)
      (hFresh : Fresh sim) :
      Fresh (sim.withMaxQubits count)

/- What every fresh simulator has in common. -/
structure Untouched
    (sim : FullState R) : Prop where
  state_eq :
    sim.state = StateVector.ground 0
  qubits_eq :
    ∃ recycle, sim.qubits = HandleTable.make recycle
  results_eq :
    sim.results =
      HandleTable.empty.withBase ResultId.firstDynamic
  maxQubits_le :
    sim.maxQubits ≤ maxAddressableQubits

theorem untouched_start
    (draws : Draws R) :
    (start draws).Untouched :=
  ⟨rfl, ⟨false, rfl⟩, rfl, (by decide : 24 ≤ 63)⟩

omit [Scalar R] in
/- A limit on the live qubits is within what can be addressed. -/
theorem maxQubits_withMaxQubits_le
    (count : Nat)
    (sim : FullState R) :
    (sim.withMaxQubits count).maxQubits ≤ maxAddressableQubits :=
  Nat.min_le_right _ _

theorem Untouched.withQubitReuse
    {sim : FullState R}
    (hSim : sim.Untouched) :
    sim.withQubitReuse.Untouched :=
  ⟨hSim.state_eq, ⟨true, rfl⟩, hSim.results_eq,
    hSim.maxQubits_le⟩

theorem Untouched.withMaxQubits
    {sim : FullState R}
    (hSim : sim.Untouched)
    (count : Nat) :
    (sim.withMaxQubits count).Untouched :=
  ⟨hSim.state_eq, hSim.qubits_eq, hSim.results_eq,
    maxQubits_withMaxQubits_le count sim⟩

theorem Untouched.named
    {sim : FullState R}
    (hSim : sim.Untouched)
    (name : String) :
    ({ sim with name := name } : FullState R).Untouched :=
  ⟨hSim.state_eq, hSim.qubits_eq, hSim.results_eq,
    hSim.maxQubits_le⟩

/- The simulator that settings start from, before its limit. -/
def unlimited
    (source : DrawSource R)
    (settings : BackendSettings) : FullState R :=
  let sim :=
    match settings.natural? "seed" with
    | some seed => start (source.seeded seed)
    | none => start source.unseeded
  if settings.flag? "reuse_qubits" = some true then
    sim.withQubitReuse
  else
    sim

/- The limit is set last and may be refused. -/
theorem ofSettings_eq
    (source : DrawSource R)
    (settings : BackendSettings) :
    ofSettings source settings =
      match settings.natural? "max_qubits" with
      | none =>
          .ok { unlimited source settings with
            name := settings.name }
      | some count =>
          if count ≤ maxAddressableQubits then
            .ok { (unlimited source settings).withMaxQubits count with
              name := settings.name }
          else
            .error (.configuration
              s!"max_qubits {count} exceeds the addressable limit of {maxAddressableQubits}") := by
  unfold ofSettings unlimited
  cases settings.natural? "max_qubits" with
  | none => rfl
  | some count =>
      dsimp only
      split <;> rfl

theorem untouched_unlimited
    (source : DrawSource R)
    (settings : BackendSettings) :
    (unlimited source settings).Untouched := by
  unfold unlimited
  dsimp only
  split
  · split
    · exact (untouched_start _).withQubitReuse
    · exact (untouched_start _).withQubitReuse
  · split
    · exact untouched_start _
    · exact untouched_start _

/- Settings make simulators that are untouched. -/
theorem untouched_ofSettings
    {source : DrawSource R}
    {settings : BackendSettings}
    {sim : FullState R}
    (hMade : ofSettings source settings = .ok sim) :
    sim.Untouched := by
  have hUnlimited := untouched_unlimited source settings
  rw [ofSettings_eq] at hMade
  split at hMade
  · cases hMade
    exact hUnlimited.named _
  · split at hMade
    · cases hMade
      exact (hUnlimited.withMaxQubits _).named _
    · cases hMade

/- Every fresh simulator is untouched. -/
theorem Fresh.untouched
    {sim : FullState R}
    (hFresh : sim.Fresh) :
    sim.Untouched := by
  induction hFresh with
  | start draws => exact untouched_start draws
  | ofSettings source settings sim hMade =>
      exact untouched_ofSettings hMade
  | withQubitReuse sim _ ih => exact ih.withQubitReuse
  | withMaxQubits count sim _ ih => exact ih.withMaxQubits count

/- A fresh simulator has taken no draw. -/
theorem Fresh.drawn_eq
    {sim : FullState R}
    (hFresh : sim.Fresh) :
    sim.drawn = 0 := by
  induction hFresh with
  | start draws => rfl
  | ofSettings source settings sim hMade =>
      have hUnlimited :
          (unlimited source settings).drawn = 0 := by
        unfold unlimited
        dsimp only
        split <;> split <;> rfl
      rw [ofSettings_eq] at hMade
      split at hMade
      · cases hMade
        exact hUnlimited
      · split at hMade
        · cases hMade
          exact hUnlimited
        · cases hMade
  | withQubitReuse sim _ ih => exact ih
  | withMaxQubits count sim _ ih => exact ih

end FullState

------------------------------------------------------------
-- Fresh simulators of bits
------------------------------------------------------------

namespace Toffoli

variable {R : Type}

/- A simulator that was made and has not been asked anything. -/
inductive Fresh : Toffoli R → Prop
  | start
      (mode : ResultMode) :
      Fresh (start mode)
  | ofSettings
      (settings : BackendSettings)
      (sim : Toffoli R)
      (hMade : ofSettings settings = .ok sim) :
      Fresh sim
  | withQubitReuse
      (sim : Toffoli R)
      (hFresh : Fresh sim) :
      Fresh sim.withQubitReuse

/- What every fresh simulator has in common. -/
structure Untouched
    (sim : Toffoli R) : Prop where
  qubits_eq :
    ∃ recycle, sim.qubits = HandleTable.make recycle
  results_eq :
    sim.results =
      HandleTable.empty.withBase ResultId.firstDynamic

theorem untouched_start
    (mode : ResultMode) :
    (start mode : Toffoli R).Untouched :=
  ⟨⟨false, rfl⟩, rfl⟩

/- The result mode that settings ask for. -/
def chosenMode
    (settings : BackendSettings) : Except BackendError ResultMode :=
  match settings.text? "result_mode" with
  | some word => ResultMode.ofText word
  | none => .ok .tracked

/- The simulator that settings make in a result mode. -/
def inMode
    (settings : BackendSettings)
    (mode : ResultMode) : Toffoli R :=
  if settings.flag? "reuse_qubits" = some true then
    (start mode).withQubitReuse
  else
    start mode

/- The result mode is read first and may be refused. -/
theorem ofSettings_eq
    (settings : BackendSettings) :
    (ofSettings settings : Except BackendError (Toffoli R)) =
      match chosenMode settings with
      | .ok mode =>
          .ok { (inMode settings mode : Toffoli R) with
            name := settings.name }
      | .error e => .error e := by
  unfold ofSettings chosenMode
  cases settings.text? "result_mode" with
  | none => rfl
  | some word =>
      dsimp only
      cases ResultMode.ofText word <;> rfl

theorem untouched_inMode
    (settings : BackendSettings)
    (mode : ResultMode) :
    (inMode settings mode : Toffoli R).Untouched := by
  unfold inMode
  split
  · exact ⟨⟨true, rfl⟩, rfl⟩
  · exact untouched_start mode

/- Settings make simulators that are untouched. -/
theorem untouched_ofSettings
    {settings : BackendSettings}
    {sim : Toffoli R}
    (hMade : ofSettings settings = .ok sim) :
    sim.Untouched := by
  rw [ofSettings_eq] at hMade
  split at hMade
  · next mode _ =>
      have hMode := untouched_inMode (R := R) settings mode
      cases hMade
      exact ⟨hMode.qubits_eq, hMode.results_eq⟩
  · cases hMade

/- Every fresh simulator is untouched. -/
theorem Fresh.untouched
    {sim : Toffoli R}
    (hFresh : sim.Fresh) :
    sim.Untouched := by
  induction hFresh with
  | start mode => exact untouched_start mode
  | ofSettings settings sim hMade =>
      exact untouched_ofSettings hMade
  | withQubitReuse sim _ ih =>
      exact ⟨⟨true, rfl⟩, ih.results_eq⟩

end Toffoli

end QuantumRuntime

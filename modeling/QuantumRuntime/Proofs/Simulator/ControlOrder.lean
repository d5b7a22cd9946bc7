import QuantumRuntime.Proofs.Simulator.Acceptance
import QuantumRuntime.Proofs.Simulator.GateCalls
import QuantumRuntime.Proofs.Simulator.Refusals

/-
  This file proves that the order of controls never matters. The
  checks on the controls ask what holds of all of them, so they
  fail alike in every order, if not for the same control. The
  effect of a call that is accepted goes through the mask of the
  controls, through whether all of them are one, or through
  their last layer, and none of these depends on the order.

  Key definitions include:
    * `BackendError.SameVariant`
    * `EndAlike`

  Key theorems include:
    * `HandleTable.checkLive_perm`
    * `HandleTable.overwriteAll_perm`
    * `FullState.Takes.perm`
    * `Toffoli.Takes.perm`
    * `Tracer.gated_perm`
    * `Builtin.control_order_does_not_matter`
-/

namespace QuantumRuntime

------------------------------------------------------------
-- Answers that end alike
------------------------------------------------------------

/-
  Two refusals of a simulator are of the same variant. They may
  still tell of different handles.
-/
inductive BackendError.SameVariant :
    BackendError → BackendError → Prop
  | contractViolation
      (operation : String)
      (handle handle' : Handle)
      (why why' : Violation) :
      SameVariant (.contractViolation operation handle why)
        (.contractViolation operation handle' why')
  | invalidArgument
      (operation reason reason' : String) :
      SameVariant (.invalidArgument operation reason)
        (.invalidArgument operation reason')
  | unsupported
      (backend backend' reason reason' : String) :
      SameVariant (.unsupported backend reason)
        (.unsupported backend' reason')

/-
  Two answers accept with the same value, or both refuse with
  errors of the same variant.
-/
inductive EndAlike
    {α : Type} :
    Except BackendError α → Except BackendError α → Prop
  | accepted
      (a : α) :
      EndAlike (.ok a) (.ok a)
  | refused
      (e e' : BackendError)
      (hVariant : e.SameVariant e') :
      EndAlike (.error e) (.error e')

namespace EndAlike

variable {α β : Type} {answer answer' : Except BackendError α}

/- What ends like an answer that accepts is that answer. -/
theorem eq_ok
    {a : α}
    (hAlike : EndAlike (.ok a) answer') :
    answer' = .ok a := by
  cases hAlike
  rfl

/- Answers still end alike after the same is made of both. -/
theorem map
    (hAlike : EndAlike answer answer')
    (f : α → β) :
    EndAlike (answer.map f) (answer'.map f) := by
  cases hAlike with
  | accepted a => exact .accepted (f a)
  | refused e e' hVariant => exact .refused e e' hVariant

/- Checks end alike when each of them does in its turn. -/
theorem bind
    {next next' : α → Except BackendError β}
    (hAlike : EndAlike answer answer')
    (hNext : ∀ a, EndAlike (next a) (next' a)) :
    EndAlike (answer >>= next) (answer' >>= next') := by
  cases hAlike with
  | accepted a => exact hNext a
  | refused e e' hVariant => exact .refused e e' hVariant

end EndAlike

/- Checks that the same objection governs end alike. -/
theorem Objection.Governs.endAlike
    {operation : String}
    {objection : Option Objection}
    {answer answer' : Except BackendError Unit}
    (hGoverns : Governs operation objection answer)
    (hGoverns' : Governs operation objection answer') :
    EndAlike answer answer' := by
  cases hGoverns with
  | accepted a =>
      cases hGoverns' with
      | accepted a' => exact .accepted ()
  | refused objection e hExplains =>
      cases hGoverns' with
      | refused _ e' hExplains' =>
          refine .refused e e' ?_
          cases hExplains with
          | notLive q why =>
              cases hExplains'
              exact .contractViolation _ _ _ _ _
          | invalid reason =>
              cases hExplains'
              exact .invalidArgument _ _ _
          | unsupported backend reason =>
              cases hExplains'
              exact .unsupported _ _ _ _

------------------------------------------------------------
-- Keys in another order
------------------------------------------------------------

namespace HandleTable

variable {K V : Type} [HandleKey K]
variable {keys keys' : List K}

/- A list with a key that is not live is refused for such a key. -/
theorem checkLive_of_dead
    {table : HandleTable K V}
    (hDead : ¬ ∀ key ∈ keys, table.Live key)
    (operation : String) :
    ∃ key,
      table.checkLive operation keys =
        .error (table.violation key operation) := by
  rw [checkLive_eq]
  split
  · next hNone => exact absurd (by simpa using hNone) hDead
  · next key _ => exact ⟨key, rfl⟩

/- Whether all keys are live does not depend on their order. -/
theorem checkLive_perm
    (hPerm : keys.Perm keys')
    (table : HandleTable K V)
    (operation : String) :
    EndAlike (table.checkLive operation keys)
      (table.checkLive operation keys') := by
  have hSame :
      (∀ key ∈ keys', table.Live key) ↔
        ∀ key ∈ keys, table.Live key := by
    simp only [hPerm.mem_iff]
  by_cases hLive : ∀ key ∈ keys, table.Live key
  · rw [(table.checkLive_eq_ok_iff operation keys).mpr hLive,
      (table.checkLive_eq_ok_iff operation keys').mpr
        (hSame.mpr hLive)]
    exact .accepted ()
  · rcases checkLive_of_dead hLive operation with ⟨key, hKey⟩
    rcases checkLive_of_dead (mt hSame.mp hLive) operation with
      ⟨key', hKey'⟩
    rw [hKey, hKey']
    exact .refused _ _ (.contractViolation _ _ _ _ _)

/- The same value can be stored behind two keys in either order. -/
theorem overwrite_right_comm
    (table : HandleTable K V)
    (key other : K)
    (value : V) :
    (table.overwrite key value).overwrite other value =
      (table.overwrite other value).overwrite key value := by
  unfold overwrite
  dsimp only
  by_cases hSlot :
      HandleKey.raw key - table.base =
        HandleKey.raw other - table.base
  · rw [hSlot]
  · rw [Array.setIfInBounds_comm _ _ hSlot]

/- One value can be stored behind many keys in any order. -/
theorem overwriteAll_perm
    (hPerm : keys.Perm keys')
    (table : HandleTable K V)
    (value : V) :
    table.overwriteAll keys value =
      table.overwriteAll keys' value := by
  unfold overwriteAll
  apply hPerm.foldl_eq'
  intro key _ other _ current
  exact overwrite_right_comm current key other value

end HandleTable

------------------------------------------------------------
-- Checks
------------------------------------------------------------

section

variable {controls controls' : List QubitId}

/- Whether controls are distinct does not depend on their order. -/
theorem checkDistinct_perm
    (hPerm : controls.Perm controls')
    (target : QubitId) :
    EndAlike (checkDistinct controls target)
      (checkDistinct controls' target) := by
  have hGoverns := governs_checkDistinct controls' target
  simp only [← hPerm.mem_iff, ← hPerm.nodup_iff] at hGoverns
  exact (governs_checkDistinct controls target).endAlike hGoverns

/- So all checks on a controlled gate end alike. -/
theorem Request.check_applyControlled_perm
    {R V : Type}
    {limits : Limits R}
    {kind : BuiltinKind}
    (hFit : limits.Fit kind)
    (hPerm : controls.Perm controls')
    (qubits : HandleTable QubitId V)
    (g : Gate R)
    (target : QubitId) :
    EndAlike
      ((applyControlled g controls target).check limits qubits)
      ((applyControlled g controls' target).check limits qubits) :=
  (HandleTable.checkLive_perm (hPerm.cons target) qubits _).bind
    fun _ => (checkDistinct_perm hPerm target).bind
      fun _ => (hFit.gate _ g).endAlike (hFit.gate _ g)

/- The answer to a controlled gate tells no more than its checks. -/
theorem Request.answer_applyControlled
    {R β : Type}
    [Scalar R]
    [Backend R β]
    {b : β}
    {g : Gate R}
    {target : QubitId}
    {outcome : Except BackendError Unit}
    (hOutcome :
      (((applyControlled g controls target).run.perform b).1.map
        fun _ => ()) = outcome) :
    ((applyControlled g controls target).run.perform b).1 =
      outcome.map fun _ => Reply.done := by
  rw [← hOutcome, run, Action.perform_map]
  cases
    ((Backend.applyControlled g controls target).perform b).1 <;>
    rfl

/- So a controlled gate that is accepted is done. -/
theorem Request.eq_done_of_accepted
    {R β : Type}
    [Scalar R]
    [Backend R β]
    {b : β}
    {g : Gate R}
    {target : QubitId}
    {reply : Reply}
    (hAccepted :
      ((applyControlled g controls target).run.perform b).1 =
        .ok reply) :
    reply = .done := by
  have hAnswer :=
    answer_applyControlled (congrArg (·.map fun _ => ()) hAccepted)
  rw [hAccepted] at hAnswer
  exact Except.ok.inj hAnswer

end

------------------------------------------------------------
-- Simulators
------------------------------------------------------------

section

variable {R : Type} {g : Gate R}
variable {controls controls' : List QubitId} {target : QubitId}

namespace FullState

/- The mask has the positions of all controls in any order. -/
theorem controlMask_perm
    {qubits : HandleTable QubitId Nat}
    {mask : Nat}
    (hPerm : controls.Perm controls')
    (hMask : controlMask qubits controls = .ok mask) :
    controlMask qubits controls' = .ok mask := by
  rw [controlMask_eq_ok_iff] at hMask ⊢
  simp only [← hPerm.mem_iff]
  exact hMask

/- A call is taken with the same mask in any order of controls. -/
theorem Takes.perm
    {sim : FullState R}
    {mask position : Nat}
    (hTakes :
      sim.Takes (.controlled g controls target) mask position)
    (hPerm : controls.Perm controls') :
    sim.Takes (.controlled g controls' target) mask position where
  target_live := hTakes.target_live
  mask_eq := controlMask_perm hPerm hTakes.mask_eq
  distinct :=
    (hTakes.distinct ▸ checkDistinct_perm hPerm target).eq_ok

/- A call that is accepted does the same in any order of controls. -/
theorem perform_perm
    [Scalar R]
    {sim : FullState R}
    (hPerm : controls.Perm controls')
    (hAccepted :
      ((Request.applyControlled g controls target).run.perform
        sim).1 = .ok .done) :
    (Request.applyControlled g controls' target).run.perform sim =
      (Request.applyControlled g controls target).run.perform
        sim := by
  have hExists :
      ∃ mask position,
        sim.Takes (.controlled g controls target) mask position :=
    exists_takes hAccepted
  rcases hExists with ⟨mask, position, hTakes⟩
  exact (hTakes.perm hPerm).perform_run.trans
    hTakes.perform_run.symm

end FullState

namespace Toffoli

variable {sim : Toffoli R} {bit : Bool}

/- A call is taken in any order of controls. -/
theorem Takes.perm
    (hTakes : sim.Takes (.controlled g controls target) bit)
    (hPerm : controls.Perm controls') :
    sim.Takes (.controlled g controls' target) bit where
  target_live := hTakes.target_live
  controls_live :=
    (hTakes.controls_live ▸
      sim.qubits.checkLive_perm hPerm "apply_controlled").eq_ok
  distinct :=
    (hTakes.distinct ▸ checkDistinct_perm hPerm target).eq_ok
  supported := hTakes.supported

/- It flips its target if all controls are one, in any order. -/
theorem gated_perm
    (hPerm : controls.Perm controls')
    (g : Gate R)
    (target : QubitId)
    (bit : Bool)
    (sim : Toffoli R) :
    sim.gated (.controlled g controls' target) bit =
      sim.gated (.controlled g controls target) bit := by
  have hSet :
      ControlsSet sim.qubits controls' ↔
        ControlsSet sim.qubits controls := by
    simp only [ControlsSet, hPerm.mem_iff]
  rw [gated_eq_turned, gated_eq_turned]
  exact if_congr hSet rfl rfl

/- A call that is accepted does the same in any order of controls. -/
theorem perform_perm
    [Scalar R]
    (hPerm : controls.Perm controls')
    (hAccepted :
      ((Request.applyControlled g controls target).run.perform
        sim).1 = .ok .done) :
    (Request.applyControlled g controls' target).run.perform sim =
      (Request.applyControlled g controls target).run.perform
        sim := by
  have hExists :
      ∃ bit, sim.Takes (.controlled g controls target) bit :=
    exists_takes hAccepted
  rcases hExists with ⟨bit, hTakes⟩
  have hSame := (hTakes.perm hPerm).perform_run
  rw [gated_perm hPerm] at hSame
  exact hSame.trans hTakes.perform_run.symm

end Toffoli

namespace Tracer

variable {tracer : Tracer R} {layer : Nat}

/- A call is taken in any order of controls. -/
theorem Takes.perm
    (hTakes : tracer.Takes (.controlled g controls target) layer)
    (hPerm : controls.Perm controls') :
    tracer.Takes (.controlled g controls' target) layer where
  target_live := hTakes.target_live
  controls_live c hControl :=
    hTakes.controls_live c (hPerm.mem_iff.mpr hControl)
  distinct :=
    (hTakes.distinct ▸ checkDistinct_perm hPerm target).eq_ok

/- The last layer of the controls does not depend on their order. -/
theorem latestLayer_perm
    (hPerm : controls.Perm controls')
    (qubits : HandleTable QubitId Nat)
    (layer : Nat) :
    latestLayer qubits layer controls' =
      latestLayer qubits layer controls := by
  unfold latestLayer
  apply hPerm.symm.foldl_eq'
  intro c _ c' _ last
  exact max_right_comm last _ _

/- A call moves its qubits to the same layer in any order. -/
theorem gated_perm
    (hPerm : controls.Perm controls')
    (g : Gate R)
    (target : QubitId)
    (layer : Nat)
    (tracer : Tracer R) :
    tracer.gated (.controlled g controls' target) layer =
      tracer.gated (.controlled g controls target) layer := by
  have hQubits : (controls ++ [target]).Perm (controls' ++ [target]) :=
    hPerm.append_right [target]
  simp only [gated, layerOf, counted, moved, GateCall.controls,
    GateCall.target, latestLayer_perm hPerm,
    HandleTable.overwriteAll_perm hQubits]

/- A call that is accepted does the same in any order of controls. -/
theorem perform_perm
    [Scalar R]
    (hPerm : controls.Perm controls')
    (hAccepted :
      ((Request.applyControlled g controls target).run.perform
        tracer).1 = .ok .done) :
    (Request.applyControlled g controls' target).run.perform
        tracer =
      (Request.applyControlled g controls target).run.perform
        tracer := by
  have hExists :
      ∃ layer,
        tracer.Takes (.controlled g controls target) layer :=
    exists_takes hAccepted
  rcases hExists with ⟨layer, hTakes⟩
  have hSame := (hTakes.perm hPerm).perform_run
  rw [gated_perm hPerm] at hSame
  exact hSame.trans hTakes.perform_run.symm

end Tracer

------------------------------------------------------------
-- Built-in backends
------------------------------------------------------------

namespace Builtin

variable [Scalar R]

/- The answers to a call end alike in any order of controls. -/
theorem endAlike_perm
    (hPerm : controls.Perm controls')
    (g : Gate R)
    (target : QubitId)
    (b : Builtin R) :
    EndAlike
      ((Request.applyControlled g controls target).run.perform b).1
      ((Request.applyControlled g controls' target).run.perform
        b).1 := by
  by_cases hKind : b.kind = .stub
  · cases b with
    | stub s =>
        rw [stub_morphism.run_eq, stub_morphism.run_eq]
        exact .refused _ _ (.unsupported _ _ _ _)
    | _ => cases hKind
  · rw [Request.answer_applyControlled
        (answer_eq_check hKind trivial),
      Request.answer_applyControlled
        (answer_eq_check hKind trivial)]
    exact (Request.check_applyControlled_perm b.fit_limits hPerm
      _ g target).map _

/- A call that is accepted does the same in any order of controls. -/
theorem perform_perm
    {b : Builtin R}
    (hPerm : controls.Perm controls')
    (hAccepted :
      ((Request.applyControlled g controls target).run.perform
        b).1 = .ok .done) :
    (Request.applyControlled g controls' target).run.perform b =
      (Request.applyControlled g controls target).run.perform
        b := by
  cases b with
  | fullState sim =>
      rw [fullState_morphism.run_eq] at hAccepted
      rw [fullState_morphism.run_eq, fullState_morphism.run_eq,
        FullState.perform_perm hPerm hAccepted]
  | toffoli sim =>
      rw [toffoli_morphism.run_eq] at hAccepted
      rw [toffoli_morphism.run_eq, toffoli_morphism.run_eq,
        Toffoli.perform_perm hPerm hAccepted]
  | tracer t =>
      rw [tracer_morphism.run_eq] at hAccepted
      rw [tracer_morphism.run_eq, tracer_morphism.run_eq,
        Tracer.perform_perm hPerm hAccepted]
  | stub s =>
      rcases Stub.perform_run
          (Request.applyControlled g controls target) s with
        ⟨e, hRefused⟩
      rw [stub_morphism.run_eq, hRefused] at hAccepted
      cases hAccepted

/-
  In every state of every built-in backend, a controlled gate
  ends alike in any order of its controls: it is accepted in
  both orders or refused in both, with errors of the same
  variant, and the state after is the same in all its parts.
  The lists may be invalid, and nothing is assumed of the
  arithmetic.
-/
theorem control_order_does_not_matter
    (b : Builtin R)
    (g : Gate R)
    {controls controls' : List QubitId}
    (target : QubitId)
    (hPerm : controls.Perm controls') :
    let ordered :=
      (Request.applyControlled g controls target).run.perform b
    let reordered :=
      (Request.applyControlled g controls' target).run.perform b
    EndAlike ordered.1 reordered.1 ∧ reordered.2 = ordered.2 := by
  intro ordered reordered
  have hAlike : EndAlike ordered.1 reordered.1 :=
    endAlike_perm hPerm g target b
  refine ⟨hAlike, ?_⟩
  cases hOrdered : ordered.1 with
  | ok reply =>
      rw [Request.eq_done_of_accepted hOrdered] at hOrdered
      exact congrArg Prod.snd (perform_perm hPerm hOrdered)
  | error e =>
      rw [hOrdered] at hAlike
      cases hReordered : reordered.1 with
      | ok reply =>
          rw [hReordered] at hAlike
          cases hAlike
      | error e' =>
          have hSame : ordered.2 = b :=
            congrArg Prod.snd (perform_run_of_error hOrdered)
          have hSame' : reordered.2 = b :=
            congrArg Prod.snd (perform_run_of_error hReordered)
          rw [hSame, hSame']

/-
  Two controls are swapped of which one is zero, and so are a
  released and an unknown one. The latter are refused for the
  one that comes first, so the two errors differ.
-/
theorem swapped_controls_end_alike :
    let b : Builtin Float :=
      (runRequests (.toffoli (.start .tracked))
        [.allocateQubit, .allocateQubit, .allocateQubit,
          .allocateQubit, .releaseQubit ⟨3⟩, .apply .x ⟨0⟩]).2
    let outcome (controls : List QubitId) :=
      (Request.applyControlled .y controls ⟨2⟩).run.perform b
    let live : List QubitId := [⟨0⟩, ⟨1⟩]
    let dead : List QubitId := [⟨3⟩, ⟨7⟩]
    live.Perm live.reverse ∧
      dead.Perm dead.reverse ∧
      (outcome live).1 = .ok .done ∧
      (outcome live.reverse).1 = .ok .done ∧
      (outcome live.reverse).2 = (outcome live).2 ∧
      (outcome dead).1 =
        .error (.contractViolation "apply_controlled"
          (.qubit ⟨3⟩) .released) ∧
      (outcome dead.reverse).1 =
        .error (.contractViolation "apply_controlled"
          (.qubit ⟨7⟩) .unknown) ∧
      EndAlike (outcome dead).1 (outcome dead.reverse).1 := by
  intro b outcome live dead
  have hLive := live.reverse_perm.symm
  have hDead := dead.reverse_perm.symm
  have hSame :=
    (control_order_does_not_matter b .y ⟨2⟩ hLive).2
  have hRefused :=
    (control_order_does_not_matter b .y ⟨2⟩ hDead).1
  exact ⟨hLive, hDead, rfl, rfl, hSame, rfl, rfl, hRefused⟩

end Builtin

end

end QuantumRuntime

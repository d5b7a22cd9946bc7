import QuantumRuntime.Proofs.Backend.Clients
import QuantumRuntime.Proofs.Simulator.Objections

/-
  This file proves that the checks which simulators make on the
  arguments of a request come out alike under aligned names,
  whatever handles the names stand for.

  Key theorems include:
    * `checkDistinct_cases`
    * `singleMeasurement_map_cases`
-/

namespace QuantumRuntime

------------------------------------------------------------
-- Arguments under names
------------------------------------------------------------

/- What a client sees of the check of controls. -/
theorem blurred_checkDistinct
    (controls : List QubitId)
    (target : QubitId) :
    (checkDistinct controls target).mapError BackendError.blurred =
      if target ∈ controls ∨ ¬ controls.Nodup then
        .error (.invalidArgument "apply_controlled" "")
      else
        .ok () := by
  have hGoverns := governs_checkDistinct controls target
  unfold Objection.when at hGoverns
  split at hGoverns
  · next hInvalid =>
      rw [if_pos hInvalid]
      generalize checkDistinct controls target = answer at hGoverns
      rcases hGoverns with _ | ⟨_, e, hExplains⟩
      rcases hExplains with _ | reason
      rfl
  · next hValid =>
      rw [if_neg hValid]
      generalize checkDistinct controls target = answer at hGoverns
      rcases hGoverns with ⟨⟩
      rfl

/- Controls are checked alike whatever handles they have. -/
theorem checkDistinct_cases
    {V : Type}
    {names controls : List QubitId}
    {target : QubitId}
    {key key' : QubitId → QubitId}
    {table table' : HandleTable QubitId V}
    (hAligned :
      HandleTable.Aligned names key key' table table')
    (hTarget : target ∈ names)
    (hControls : ∀ c ∈ controls, c ∈ names) :
    (checkDistinct (controls.map key) (key target) = .ok () ∧
      checkDistinct (controls.map key') (key' target) = .ok ()) ∨
      ∃ e e',
        checkDistinct (controls.map key) (key target) = .error e ∧
          checkDistinct (controls.map key') (key' target) =
            .error e' ∧
          e'.blurred = e.blurred := by
  have hOwn := blurred_checkDistinct (controls.map key) (key target)
  have hOther :=
    blurred_checkDistinct (controls.map key') (key' target)
  simp only [hAligned.own.mem_map_iff hTarget hControls,
    hAligned.own.nodup_map_iff hControls] at hOwn
  simp only [hAligned.other.mem_map_iff hTarget hControls,
    hAligned.other.nodup_map_iff hControls, ← hOwn] at hOther
  cases hFirst : checkDistinct (controls.map key) (key target) with
  | ok _ =>
      cases hSecond :
          checkDistinct (controls.map key') (key' target) with
      | ok _ => exact .inl ⟨rfl, rfl⟩
      | error e' =>
          rw [hFirst, hSecond] at hOther
          cases hOther
  | error e =>
      cases hSecond :
          checkDistinct (controls.map key') (key' target) with
      | ok _ =>
          rw [hFirst, hSecond] at hOther
          cases hOther
      | error e' =>
          rw [hFirst, hSecond] at hOther
          exact .inr ⟨e, e', rfl, rfl, Except.error.inj hOther⟩

/- The shape of a measurement does not depend on the handles. -/
theorem singleMeasurement_map_cases
    (name name' : String)
    (bases : List Pauli)
    (targets : List QubitId)
    (key key' : QubitId → QubitId) :
    (∃ basis, ∃ target ∈ targets,
      singleMeasurement name bases (targets.map key) =
          .ok (basis, key target) ∧
        singleMeasurement name' bases (targets.map key') =
          .ok (basis, key' target)) ∨
      ∃ e e',
        singleMeasurement name bases (targets.map key) =
            .error e ∧
          singleMeasurement name' bases (targets.map key') =
            .error e' ∧
          e'.blurred = e.blurred := by
  unfold singleMeasurement
  simp only [List.length_map]
  split
  · exact .inr ⟨_, _, rfl, rfl, rfl⟩
  · rcases bases with _ | ⟨basis, _ | ⟨next, bases⟩⟩ <;>
      rcases targets with _ | ⟨target, _ | ⟨other, targets⟩⟩ <;>
      first
      | exact .inl ⟨basis, target, List.mem_cons_self, rfl, rfl⟩
      | exact .inr ⟨_, _, rfl, rfl, rfl⟩

end QuantumRuntime

import QuantumRuntime.Proofs.Backend.Census
import QuantumRuntime.Proofs.HandleTable.KeyLists
import QuantumRuntime.Simulator.Builtin

/-
  This file defines the rule by which simulators accept and
  refuse requests, from nothing but the census of what has
  happened before, and the checks that a simulator makes
  instead, on its tables. The checks are governed by the rule.

  Key definitions include:
    * `Objection`
    * `Objection.Governs`
    * `Census.objection`
    * `Limits`
    * `Request.check`

  Key theorems include:
    * `Census.Agrees.governs_checkLive`
    * `governs_checkDistinct`
    * `governs_singleMeasurement`
    * `Request.governs_check`
-/

namespace QuantumRuntime

variable {R : Type}

------------------------------------------------------------
-- Objections
------------------------------------------------------------

/- Why a request is refused, without the wording. -/
inductive Objection where
  | notLive (q : QubitId) (why : Violation)
  | invalid
  | unsupported
deriving DecidableEq, Repr

namespace Objection

/- An objection that is made under a condition. -/
def when
    (objection : Objection)
    (condition : Prop)
    [Decidable condition] : Option Objection :=
  if condition then some objection else none

/-
  An error explains an objection when it is of its kind. An
  error about a qubit that is not live names the qubit and says
  whether it was live before.
-/
inductive Explains
    (operation : String) : Objection → BackendError → Prop
  | notLive
      (q : QubitId)
      (why : Violation) :
      Explains operation (.notLive q why)
        (.contractViolation operation (.qubit q) why)
  | invalid
      (reason : String) :
      Explains operation .invalid (.invalidArgument operation reason)
  | unsupported
      (backend reason : String) :
      Explains operation .unsupported (.unsupported backend reason)

/-
  What objection there is, if any, decides an answer: without
  one it is an acceptance, and else an error that explains it.
-/
inductive Governs
    {α : Type}
    (operation : String) :
    Option Objection → Except BackendError α → Prop
  | accepted
      (a : α) :
      Governs operation none (.ok a)
  | refused
      (objection : Objection)
      (e : BackendError)
      (hExplains : objection.Explains operation e) :
      Governs operation (some objection) (.error e)

namespace Governs

variable {α β : Type} {operation : String}
variable {first second : Option Objection}
variable {answer : Except BackendError α}

/- What is made of an accepting answer does not matter. -/
theorem map_iff
    (f : α → β) :
    Governs operation first (answer.map f) ↔
      Governs operation first answer := by
  cases answer with
  | ok a =>
      constructor
      · rintro ⟨⟩
        exact .accepted a
      · rintro ⟨⟩
        exact .accepted (f a)
  | error e =>
      constructor
      · rintro ⟨⟩
        exact .refused _ e ‹_›
      · rintro ⟨⟩
        exact .refused _ e ‹_›

/- An earlier objection comes before a later one. -/
theorem bind
    {next : α → Except BackendError β}
    (hFirst : Governs operation first answer)
    (hSecond :
      ∀ a, answer = .ok a → Governs operation second (next a)) :
    Governs operation (first.or second) (answer >>= next) := by
  cases hFirst with
  | accepted a => exact hSecond a rfl
  | refused objection e hExplains =>
      exact .refused objection e hExplains

/- A check under a condition is governed by the condition. -/
theorem ite
    {condition : Prop}
    [Decidable condition]
    {objection : Objection}
    {e : BackendError}
    (hExplains : objection.Explains operation e)
    (a : α) :
    Governs operation (objection.when condition)
      (if condition then .error e else .ok a) := by
  unfold when
  split
  · exact .refused objection e hExplains
  · exact .accepted a

end Governs

end Objection

------------------------------------------------------------
-- The rule
------------------------------------------------------------

/- The gates that take a basis state to a superposition. -/
def Gate.CreatesSuperposition : Gate R → Prop
  | h | sx | sxdg | rx _ | ry _ => True
  | _ => False

/- These are the gates that neither flip a bit nor are diagonal. -/
theorem Gate.createsSuperposition_iff
    (g : Gate R) :
    g.CreatesSuperposition ↔ ¬ (g.IsBitFlip ∨ g.IsDiagonal) := by
  cases g <;>
    simp [CreatesSuperposition, IsBitFlip, IsDiagonal]

instance
    (g : Gate R) :
    Decidable g.CreatesSuperposition :=
  decidable_of_iff _ g.createsSuperposition_iff.symm

/- The bases in which a basis state has no sure outcome. -/
def Pauli.IsTransverse
    (basis : Pauli) : Prop :=
  basis = x ∨ basis = y

instance
    (basis : Pauli) :
    Decidable basis.IsTransverse := by
  unfold Pauli.IsTransverse
  infer_instance

namespace BuiltinKind

/- Only the simulator of bits refuses gates. -/
def RefusesGate
    (kind : BuiltinKind)
    (g : Gate R) : Prop :=
  kind = toffoli ∧ g.CreatesSuperposition

instance
    (kind : BuiltinKind)
    (g : Gate R) :
    Decidable (kind.RefusesGate g) := by
  unfold RefusesGate
  infer_instance

/- Only the simulator of bits refuses bases. -/
def RefusesBasis
    (kind : BuiltinKind)
    (basis : Pauli) : Prop :=
  kind = toffoli ∧ basis.IsTransverse

instance
    (kind : BuiltinKind)
    (basis : Pauli) :
    Decidable (kind.RefusesBasis basis) := by
  unfold RefusesBasis
  infer_instance

end BuiltinKind

namespace Request

/- The requests that name qubits. -/
def UsesQubits : Request R → Prop
  | releaseQubit _ => True
  | apply _ _ => True
  | applyControlled _ _ _ => True
  | measure _ _ => True
  | _ => False

/- The name of the operation in errors about misuse. -/
def operation : Request R → String
  | allocateQubit => "allocate_qubit"
  | releaseQubit _ => "release_qubit"
  | apply _ _ => "apply"
  | applyControlled _ _ _ => "apply_controlled"
  | measure _ _ => "measure"
  | areEqualResults _ _ => "result_equal"
  | releaseResult _ => "release_result"
  | resultValue _ => "result_value"

end Request

namespace Census

/- The objection against the first of some qubits that is not live. -/
def firstDead
    (census : Census)
    (qs : List QubitId) : Option Objection :=
  (qs.find? fun q => q ∉ census.live).map fun q =>
    .notLive q
      (if q ∈ census.issued then .released else .unknown)

/-
  The objection of a simulator of some kind against a request
  that names qubits. A joint measurement is refused before its
  targets are looked at, and an operation that the kind does not
  support only after all else.
-/
def objection
    (kind : BuiltinKind)
    (census : Census) : Request R → Option Objection
  | .releaseQubit q => census.firstDead [q]
  | .apply g target =>
      (census.firstDead [target]).or
        (Objection.unsupported.when (kind.RefusesGate g))
  | .applyControlled g controls target =>
      (census.firstDead (target :: controls)).or
        ((Objection.invalid.when
            (target ∈ controls ∨ ¬ controls.Nodup)).or
          (Objection.unsupported.when (kind.RefusesGate g)))
  | .measure bases targets =>
      (Objection.invalid.when
          (bases.length ≠ targets.length ∨
            bases = [] ∧ targets = [])).or
        ((Objection.unsupported.when (1 < targets.length)).or
          ((census.firstDead targets).or
            (Objection.unsupported.when
              (∃ basis ∈ bases, kind.RefusesBasis basis))))
  | _ => none

end Census

------------------------------------------------------------
-- Checks
------------------------------------------------------------

/-
  What a simulator refuses beyond what all simulators refuse,
  and its name, which some errors tell.
-/
structure Limits (R : Type) where
  name : String
  checkGate : String → Gate R → Except BackendError Unit
  checkBasis : Pauli → Except BackendError Unit

namespace Limits

/- A simulator that supports all gates and all bases. -/
def unlimited
    (name : String) : Limits R :=
  { name := name
    checkGate := fun _ _ => .ok ()
    checkBasis := fun _ => .ok () }

/- The limits are those of a kind of simulator. -/
structure Fit
    (limits : Limits R)
    (kind : BuiltinKind) : Prop where
  gate :
    ∀ operation g,
      Objection.Governs operation
        (Objection.unsupported.when (kind.RefusesGate g))
        (limits.checkGate operation g)
  basis :
    ∀ basis,
      Objection.Governs "measure"
        (Objection.unsupported.when (kind.RefusesBasis basis))
        (limits.checkBasis basis)

theorem fit_unlimited
    {kind : BuiltinKind}
    (hKind : kind ≠ .toffoli)
    (name : String) :
    (unlimited name : Limits R).Fit kind where
  gate operation g := by
    have hNo : ¬ kind.RefusesGate g := fun hRefuses =>
      hKind hRefuses.1
    rw [Objection.when, if_neg hNo]
    exact .accepted ()
  basis basis := by
    have hNo : ¬ kind.RefusesBasis basis := fun hRefuses =>
      hKind hRefuses.1
    rw [Objection.when, if_neg hNo]
    exact .accepted ()

end Limits

/-
  The checks that a simulator makes, in their order, before it
  does what a request that names qubits asks for.
-/
def Request.check
    {V : Type}
    (limits : Limits R)
    (qubits : HandleTable QubitId V) :
    Request R → Except BackendError Unit
  | releaseQubit q => qubits.checkLive "release_qubit" [q]
  | apply g target => do
      qubits.checkLive "apply" [target]
      limits.checkGate "apply" g
  | applyControlled g controls target => do
      qubits.checkLive "apply_controlled" (target :: controls)
      checkDistinct controls target
      limits.checkGate "apply_controlled" g
  | measure bases targets => do
      let (basis, target) ←
        singleMeasurement limits.name bases targets
      qubits.checkLive "measure" [target]
      limits.checkBasis basis
  | _ => .ok ()

/- The checks look at the shape of the table only. -/
theorem Request.check_of_shape_eq
    {V W : Type}
    {qubits : HandleTable QubitId V}
    {other : HandleTable QubitId W}
    (hShape : other.shape = qubits.shape)
    (limits : Limits R)
    (request : Request R) :
    request.check limits other = request.check limits qubits := by
  cases request <;>
    simp only [check, HandleTable.checkLive_eq_of_shape_eq hShape]

section

variable {V : Type} {value : V}
variable {qubits : HandleTable QubitId V} {limits : Limits R}

theorem Request.check_releaseQubit_of_live
    {q : QubitId}
    (hLive : qubits.get? q = some value) :
    (releaseQubit q).check limits qubits = .ok () := by
  rw [check, HandleTable.checkLive_singleton,
    HandleTable.get_of_live hLive, Except.map]

theorem Request.check_releaseQubit_of_dead
    {q : QubitId}
    (hDead : qubits.get? q = none) :
    (releaseQubit q).check limits qubits =
      .error (qubits.violation q "release_qubit") := by
  rw [check, HandleTable.checkLive_singleton,
    HandleTable.get_of_dead hDead, Except.map]

theorem Request.check_apply_of_live
    {g : Gate R}
    {target : QubitId}
    (hLive : qubits.get? target = some value) :
    (apply g target).check limits qubits =
      limits.checkGate "apply" g := by
  simp only [check, HandleTable.checkLive_singleton,
    HandleTable.get_of_live hLive, Except.map, bind, Except.bind]

theorem Request.check_apply_of_dead
    {g : Gate R}
    {target : QubitId}
    (hDead : qubits.get? target = none) :
    (apply g target).check limits qubits =
      .error (qubits.violation target "apply") := by
  simp only [check, HandleTable.checkLive_singleton,
    HandleTable.get_of_dead hDead, Except.map, bind, Except.bind]

section

variable {bases : List Pauli} {targets : List QubitId}
variable {basis : Pauli} {target : QubitId}

theorem Request.check_measure_of_shape
    {e : BackendError}
    (hSingle :
      singleMeasurement limits.name bases targets = .error e) :
    (measure bases targets).check limits qubits = .error e := by
  simp only [check, hSingle, bind, Except.bind]

theorem Request.check_measure_of_live
    (hSingle :
      singleMeasurement limits.name bases targets =
        .ok (basis, target))
    (hLive : qubits.get? target = some value) :
    (measure bases targets).check limits qubits =
      limits.checkBasis basis := by
  simp only [check, hSingle, HandleTable.checkLive_singleton,
    HandleTable.get_of_live hLive, Except.map, bind, Except.bind]

theorem Request.check_measure_of_dead
    (hSingle :
      singleMeasurement limits.name bases targets =
        .ok (basis, target))
    (hDead : qubits.get? target = none) :
    (measure bases targets).check limits qubits =
      .error (qubits.violation target "measure") := by
  simp only [check, hSingle, HandleTable.checkLive_singleton,
    HandleTable.get_of_dead hDead, Except.map, bind, Except.bind]

end

end

/- All of some qubits are live, or the first that is not is named. -/
theorem Census.Agrees.governs_checkLive
    {V : Type}
    {census : Census}
    {qubits : HandleTable QubitId V}
    (hAgrees : census.Agrees qubits)
    (operation : String)
    (qs : List QubitId) :
    Objection.Governs operation (census.firstDead qs)
      (qubits.checkLive operation qs) := by
  have hSame :
      (qs.find? fun q => q ∉ census.live) =
        qs.find? fun q => ¬ qubits.Live q := by
    simp only [hAgrees.mem_live_iff]
  rw [HandleTable.checkLive_eq, Census.firstDead, hSame]
  cases qs.find? fun q => ¬ qubits.Live q with
  | none => exact .accepted ()
  | some q =>
      dsimp only [Option.map_some]
      rw [HandleTable.violation_eq]
      simp only [hAgrees.mem_issued_iff]
      exact .refused _ _ (.notLive q _)

/-
  Controls are invalid when one of them is the target, is among
  those before it, or comes twice.
-/
theorem governs_checkDistinctFrom
    (earlier : List QubitId)
    (target : QubitId)
    (controls : List QubitId) :
    Objection.Governs "apply_controlled"
      (Objection.invalid.when
        (target ∈ controls ∨
          (∃ c ∈ controls, c ∈ earlier) ∨ ¬ controls.Nodup))
      (checkDistinctFrom earlier target controls) := by
  induction controls generalizing earlier with
  | nil => simpa [Objection.when] using .accepted ()
  | cons c rest ih =>
      unfold checkDistinctFrom
      by_cases hTarget : c = target
      · simpa [hTarget, Objection.when] using
          .refused _ _ (.invalid _)
      · by_cases hEarlier : c ∈ earlier
        · simpa [hTarget, hEarlier, Objection.when] using
            .refused _ _ (.invalid _)
        · have hSame :
              (target ∈ c :: rest ∨
                  (∃ d ∈ c :: rest, d ∈ earlier) ∨
                  ¬ (c :: rest).Nodup) ↔
                (target ∈ rest ∨
                  (∃ d ∈ rest, d ∈ c :: earlier) ∨
                  ¬ rest.Nodup) := by
            have hNe : target ≠ c := fun hEq => hTarget hEq.symm
            simp only [List.mem_cons, List.nodup_cons]
            grind
          rw [if_neg hTarget, if_neg hEarlier]
          simpa only [hSame] using ih (c :: earlier)

theorem governs_checkDistinct
    (controls : List QubitId)
    (target : QubitId) :
    Objection.Governs "apply_controlled"
      (Objection.invalid.when
        (target ∈ controls ∨ ¬ controls.Nodup))
      (checkDistinct controls target) := by
  simpa [checkDistinct] using
    governs_checkDistinctFrom [] target controls

/- A measurement is of one qubit, or it is invalid or joint. -/
theorem governs_singleMeasurement
    (backend : String)
    (bases : List Pauli)
    (targets : List QubitId) :
    Objection.Governs "measure"
      ((Objection.invalid.when
          (bases.length ≠ targets.length ∨
            bases = [] ∧ targets = [])).or
        (Objection.unsupported.when (1 < targets.length)))
      (singleMeasurement backend bases targets) := by
  unfold singleMeasurement
  by_cases hLength : bases.length = targets.length
  · rw [if_neg (not_not.mpr hLength)]
    split
    · simpa [Objection.when] using .accepted _
    · simpa [Objection.when] using .refused _ _ (.invalid _)
    · next hOne hNone =>
        have hMany : 1 < targets.length := by
          rcases targets with _ | ⟨target, _ | ⟨next, rest⟩⟩
          · exact absurd (List.length_eq_zero_iff.mp hLength)
              fun hNil => hNone hNil rfl
          · rcases List.length_eq_one_iff.mp hLength with
              ⟨basis, hBasis⟩
            exact absurd rfl (hOne basis target hBasis)
          · simp
        have hSome : targets ≠ [] := by
          rintro rfl
          cases hMany
        simpa [Objection.when, hLength, hMany, hSome] using
          .refused _ _ (.unsupported _ _)
  · simpa [Objection.when, hLength] using
      .refused _ _ (.invalid _)

theorem singleMeasurement_eq_ok
    {backend : String}
    {bases : List Pauli}
    {targets : List QubitId}
    {basis : Pauli}
    {target : QubitId}
    (hSingle :
      singleMeasurement backend bases targets =
        .ok (basis, target)) :
    bases = [basis] ∧ targets = [target] := by
  unfold singleMeasurement at hSingle
  split at hSingle
  · cases hSingle
  · split at hSingle
    · cases hSingle
      exact ⟨rfl, rfl⟩
    · cases hSingle
    · cases hSingle

/- The checks of a simulator are governed by the rule. -/
theorem Request.governs_check
    {V : Type}
    {census : Census}
    {qubits : HandleTable QubitId V}
    {limits : Limits R}
    {kind : BuiltinKind}
    (hAgrees : census.Agrees qubits)
    (hFit : limits.Fit kind)
    {request : Request R}
    (hUses : request.UsesQubits) :
    Objection.Governs request.operation
      (census.objection kind request)
      (request.check limits qubits) := by
  cases request with
  | releaseQubit q => exact hAgrees.governs_checkLive _ [q]
  | apply g target =>
      exact (hAgrees.governs_checkLive _ [target]).bind
        fun _ _ => hFit.gate _ g
  | applyControlled g controls target =>
      exact (hAgrees.governs_checkLive _ (target :: controls)).bind
        fun _ _ => (governs_checkDistinct controls target).bind
          fun _ _ => hFit.gate _ g
  | measure bases targets =>
      rw [Census.objection, ← Option.or_assoc]
      refine (governs_singleMeasurement _ bases targets).bind ?_
      rintro ⟨basis, target⟩ hSingle
      rcases singleMeasurement_eq_ok hSingle with ⟨rfl, rfl⟩
      refine (hAgrees.governs_checkLive _ [target]).bind ?_
      intro _ _
      simpa only [List.mem_singleton, exists_eq_left] using
        hFit.basis basis
  | _ => exact hUses.elim

end QuantumRuntime

import Std.Data.ExtTreeSet

/-
  This file defines the handles by which programs name qubits
  and measurement results. A handle names a slot of the backend
  that issued it and carries no state of its own.

  Key definitions include:
    * `QubitId`
    * `ResultId`
    * `ResultId.zero`
    * `ResultId.one`
    * `ResultId.constantValue`
    * `Handle`
    * `HandleKey`
-/

namespace QuantumRuntime

------------------------------------------------------------
-- Qubits
------------------------------------------------------------

/- The name of one qubit. -/
structure QubitId where
  raw : Nat
deriving DecidableEq, Repr, Inhabited

namespace QubitId

/- Qubits are ordered by their raw values. -/
instance : Ord QubitId where
  compare a b := compare a.raw b.raw

instance : Std.TransOrd QubitId where
  eq_swap := by
    intro a b
    exact (Nat.compare_swap b.raw a.raw).symm
  isLE_trans := by
    intro a b c hab hbc
    have hLow := Nat.isLE_compare.mp hab
    have hHigh := Nat.isLE_compare.mp hbc
    exact Nat.isLE_compare.mpr (Nat.le_trans hLow hHigh)

instance : Std.LawfulEqOrd QubitId where
  eq_of_compare h :=
    congrArg QubitId.mk (Nat.compare_eq_eq.mp h)

/- The text of a qubit name. -/
def text
    (q : QubitId) : String :=
  "q" ++ toString q.raw

end QubitId

------------------------------------------------------------
-- Results
------------------------------------------------------------

/-
  The name of one measurement outcome. The raw values zero and
  one are reserved for the two constants.
-/
structure ResultId where
  raw : Nat
deriving DecidableEq, Repr, Inhabited

namespace ResultId

/- Results are ordered by their raw values. -/
instance : Ord ResultId where
  compare a b := compare a.raw b.raw

instance : Std.TransOrd ResultId where
  eq_swap := by
    intro a b
    exact (Nat.compare_swap b.raw a.raw).symm
  isLE_trans := by
    intro a b c hab hbc
    have hLow := Nat.isLE_compare.mp hab
    have hHigh := Nat.isLE_compare.mp hbc
    exact Nat.isLE_compare.mpr (Nat.le_trans hLow hHigh)

instance : Std.LawfulEqOrd ResultId where
  eq_of_compare h :=
    congrArg ResultId.mk (Nat.compare_eq_eq.mp h)

/- The constant result that stands for the outcome zero. -/
def zero : ResultId :=
  { raw := 0 }

/- The constant result that stands for the outcome one. -/
def one : ResultId :=
  { raw := 1 }

/- The first raw value that a measurement may be given. -/
def firstDynamic : Nat :=
  2

/- The constant that stands for a bit. -/
def ofBool
    (bit : Bool) : ResultId :=
  if bit then one else zero

/- The bit that a constant stands for, and nothing otherwise. -/
def constantValue
    (r : ResultId) : Option Bool :=
  match r.raw with
  | 0 => some false
  | 1 => some true
  | _ => none

/- A result is constant when its name is one of the reserved two. -/
def IsConstant
    (r : ResultId) : Prop :=
  r.raw < firstDynamic

instance
    (r : ResultId) :
    Decidable r.IsConstant := by
  unfold IsConstant
  infer_instance

/- The text of a result name. -/
def text
    (r : ResultId) : String :=
  match r.constantValue with
  | some false => "Zero"
  | some true => "One"
  | none => "r" ++ toString r.raw

end ResultId

------------------------------------------------------------
-- Handles of either kind
------------------------------------------------------------

/- The name of a qubit or of a result. -/
inductive Handle where
  | qubit (q : QubitId)
  | result (r : ResultId)
deriving DecidableEq, Repr

namespace Handle

/- The text of a handle, which says its kind. -/
def text : Handle → String
  | qubit q => "qubit " ++ q.text
  | result r => "result " ++ r.text

end Handle

------------------------------------------------------------
-- Kinds of handle
------------------------------------------------------------

/- A type of handles that is a copy of the natural numbers. -/
class HandleKey (K : Type) where
  ofRaw : Nat → K
  raw : K → Nat
  toHandle : K → Handle
  raw_ofRaw : ∀ n, raw (ofRaw n) = n
  ofRaw_raw : ∀ k, ofRaw (raw k) = k

instance : HandleKey QubitId where
  ofRaw := QubitId.mk
  raw := QubitId.raw
  toHandle := Handle.qubit
  raw_ofRaw _ := rfl
  ofRaw_raw _ := rfl

instance : HandleKey ResultId where
  ofRaw := ResultId.mk
  raw := ResultId.raw
  toHandle := Handle.result
  raw_ofRaw _ := rfl
  ofRaw_raw _ := rfl

end QuantumRuntime

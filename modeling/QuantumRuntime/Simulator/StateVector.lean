import QuantumRuntime.Amplitude
import QuantumRuntime.Gate

/-
  This file defines state vectors: the `2 ^ n` amplitudes of
  `n` qubits. A qubit is addressed by its bit position in the
  index of an amplitude, and positions are dense: a new qubit
  takes the next position and removing one lowers every
  position above it.

  Key definitions include:
    * `StateVector`
    * `StateVector.amplitude`
    * `StateVector.addQubit`
    * `StateVector.removeQubit`
    * `StateVector.applyGate`
    * `StateVector.probabilityOne`
    * `StateVector.collapse`
    * `StateVector.measure`
-/

namespace QuantumRuntime

------------------------------------------------------------
-- Index arithmetic
------------------------------------------------------------

/- The bits of `i` that are not in `mask`. -/
def clearBits
    (i : Nat)
    (mask : Nat) : Nat :=
  i ^^^ (i &&& mask)

/-
  Insert a zero bit at a position: lower bits stay and the
  others move up by one.
-/
def insertZeroBit
    (position : Nat)
    (i : Nat) : Nat :=
  let low := (1 <<< position) - 1
  (i &&& low) ||| (clearBits i low <<< 1)

/- An index holds a mask when every bit of the mask is set in it. -/
def Holds
    (mask : Nat)
    (i : Nat) : Prop :=
  i &&& mask = mask

instance
    (mask : Nat)
    (i : Nat) :
    Decidable (Holds mask i) := by
  unfold Holds
  infer_instance

------------------------------------------------------------
-- State vectors
------------------------------------------------------------

/- The amplitudes of a number of qubits. -/
structure StateVector (R : Type) where
  qubitCount : Nat
  amplitudes : Array (Amplitude R)
  size_eq : amplitudes.size = 1 <<< qubitCount

namespace StateVector

variable {R : Type} [Scalar R]

/- The amplitude at an index, zero past the end. -/
def amplitude
    (s : StateVector R)
    (i : Nat) : Amplitude R :=
  s.amplitudes.getD i 0

/- The state of `n` qubits with a given amplitude at each index. -/
def tabulate
    (n : Nat)
    (f : Nat → Amplitude R) : StateVector R :=
  { qubitCount := n
    amplitudes := Array.ofFn fun i : Fin (1 <<< n) => f i.val
    size_eq := Array.size_ofFn }

/- The state in which every qubit is zero. -/
def ground
    (n : Nat) : StateVector R :=
  tabulate n fun i => if i = 0 then 1 else 0

/- Append a qubit that is zero, at the next position. -/
def addQubit
    (s : StateVector R) : StateVector R :=
  { qubitCount := s.qubitCount + 1
    amplitudes := s.amplitudes ++ Array.replicate s.amplitudes.size 0
    size_eq := by
      rw [Array.size_append, Array.size_replicate, s.size_eq,
        Nat.shiftLeft_succ]
      omega }

/-
  Remove the qubit at a position. Amplitudes with that bit set
  are dropped, so the qubit is brought to zero first.
-/
def removeQubit
    (position : Nat)
    (s : StateVector R) : StateVector R :=
  tabulate (s.qubitCount - 1) fun i =>
    s.amplitude (insertZeroBit position i)

------------------------------------------------------------
-- Gates
------------------------------------------------------------

/- The entries of a two by two matrix, row by row. -/
structure GateMatrix (R : Type) where
  m00 : Amplitude R
  m01 : Amplitude R
  m10 : Amplitude R
  m11 : Amplitude R

/- The unitary matrix of a gate. -/
def gateMatrix : Gate R → GateMatrix R
  | .i => { m00 := 1, m01 := 0, m10 := 0, m11 := 1 }
  | .x => { m00 := 0, m01 := 1, m10 := 1, m11 := 0 }
  | .y =>
      { m00 := 0
        m01 := -Amplitude.imaginary
        m10 := Amplitude.imaginary
        m11 := 0 }
  | .z => { m00 := 1, m01 := 0, m10 := 0, m11 := -1 }
  | .h =>
      let r := Amplitude.ofReal Scalar.invSqrtTwo
      { m00 := r, m01 := r, m10 := r, m11 := -r }
  | .s => { m00 := 1, m01 := 0, m10 := 0, m11 := Amplitude.imaginary }
  | .sdg => { m00 := 1, m01 := 0, m10 := 0, m11 := -Amplitude.imaginary }
  | .t =>
      { m00 := 1
        m01 := 0
        m10 := 0
        m11 := Amplitude.phase Scalar.eighthTurn }
  | .tdg =>
      { m00 := 1
        m01 := 0
        m10 := 0
        m11 := Amplitude.phase (-Scalar.eighthTurn) }
  | .sx =>
      let p : Amplitude R := { re := Scalar.half, im := Scalar.half }
      let m : Amplitude R := { re := Scalar.half, im := -Scalar.half }
      { m00 := p, m01 := m, m10 := m, m11 := p }
  | .sxdg =>
      let p : Amplitude R := { re := Scalar.half, im := -Scalar.half }
      let m : Amplitude R := { re := Scalar.half, im := Scalar.half }
      { m00 := p, m01 := m, m10 := m, m11 := p }
  | .rx angle =>
      let c := Amplitude.ofReal (Scalar.cos (angle / Scalar.two))
      let s : Amplitude R :=
        { re := 0, im := -Scalar.sin (angle / Scalar.two) }
      { m00 := c, m01 := s, m10 := s, m11 := c }
  | .ry angle =>
      let c := Amplitude.ofReal (Scalar.cos (angle / Scalar.two))
      let s := Amplitude.ofReal (Scalar.sin (angle / Scalar.two))
      { m00 := c, m01 := -s, m10 := s, m11 := c }
  | .rz angle =>
      { m00 := Amplitude.phase (-angle / Scalar.two)
        m01 := 0
        m10 := 0
        m11 := Amplitude.phase (angle / Scalar.two) }
  | .r1 angle =>
      { m00 := 1
        m01 := 0
        m10 := 0
        m11 := Amplitude.phase angle }

namespace GateMatrix

/- The image of a pair of amplitudes under a matrix. -/
def act
    (m : GateMatrix R)
    (a b : Amplitude R) : Amplitude R × Amplitude R :=
  (m.m00 * a + m.m01 * b, m.m10 * a + m.m11 * b)

end GateMatrix

/-
  Change the amplitudes at two indices together. Both are read
  before either is written.
-/
def updatePair
    (f : Amplitude R → Amplitude R → Amplitude R × Amplitude R)
    (i j : Nat)
    (amplitudes : Array (Amplitude R)) : Array (Amplitude R) :=
  let (a, b) := f (amplitudes.getD i 0) (amplitudes.getD j 0)
  (amplitudes.setIfInBounds i a).setIfInBounds j b

/-
  Go through the indices in ascending order. Each index that
  holds the control mask and has the target bit clear is
  changed together with its partner, which has the bit set.
-/
def sweep
    (f : Amplitude R → Amplitude R → Amplitude R × Amplitude R)
    (mask target : Nat)
    (amplitudes : Array (Amplitude R)) : Array (Amplitude R) :=
  let bit := 1 <<< target
  Nat.fold amplitudes.size
    (fun i _ current =>
      if Holds mask i ∧ i &&& bit = 0 then
        updatePair f i (i ||| bit) current
      else
        current)
    amplitudes

omit [Scalar R] in
/- A fold whose steps keep the size of an array keeps its size. -/
private theorem size_fold
    (n : Nat)
    (step : (i : Nat) → i < n → Array (Amplitude R) → Array (Amplitude R))
    (hStep : ∀ i h a, (step i h a).size = a.size)
    (amplitudes : Array (Amplitude R)) :
    (Nat.fold n step amplitudes).size = amplitudes.size := by
  induction n with
  | zero => simp
  | succ n ih =>
      rw [Nat.fold_succ, hStep]
      exact ih _ fun i h a => hStep i (by omega) a

/- A sweep keeps the number of amplitudes. -/
theorem size_sweep
    (f : Amplitude R → Amplitude R → Amplitude R × Amplitude R)
    (mask target : Nat)
    (amplitudes : Array (Amplitude R)) :
    (sweep f mask target amplitudes).size = amplitudes.size := by
  refine size_fold _ _ (fun i h a => ?_) amplitudes
  split
  · simp [updatePair]
  · rfl

/- The state after a sweep. -/
def swept
    (f : Amplitude R → Amplitude R → Amplitude R × Amplitude R)
    (mask target : Nat)
    (s : StateVector R) : StateVector R :=
  { qubitCount := s.qubitCount
    amplitudes := sweep f mask target s.amplitudes
    size_eq := by rw [size_sweep, s.size_eq] }

/-
  Apply a gate to the target position where every bit of the
  control mask is set. The identity does nothing and the flip
  exchanges amplitudes without arithmetic.
-/
def applyGate
    (g : Gate R)
    (mask target : Nat)
    (s : StateVector R) : StateVector R :=
  match g with
  | .i => s
  | .x => swept (fun a b => (b, a)) mask target s
  | _ => swept (gateMatrix g).act mask target s

------------------------------------------------------------
-- Measurement
------------------------------------------------------------

/- The sum of a term over the indices that pass a test, in order. -/
def sumOver
    (n : Nat)
    (test : Nat → Bool)
    (term : Nat → R) : R :=
  Nat.fold n (fun i _ sum => if test i then sum + term i else sum) 0

/- The weight of the indices whose bit at a position has a value. -/
def branchWeight
    (position : Nat)
    (outcome : Bool)
    (s : StateVector R) : R :=
  sumOver (1 <<< s.qubitCount)
    (fun i => i.testBit position = outcome)
    (fun i => (s.amplitude i).normSq)

/- The probability that the qubit at a position is one. -/
def probabilityOne
    (position : Nat)
    (s : StateVector R) : R :=
  s.branchWeight position true

/-
  Keep the branch in which the qubit at a position has a given
  value, and scale it to length one if its length is positive.
-/
def collapse
    (position : Nat)
    (outcome : Bool)
    (s : StateVector R) : StateVector R :=
  let norm := Scalar.sqrt (s.branchWeight position outcome)
  let kept := fun i =>
    if i.testBit position = outcome then s.amplitude i else 0
  if Scalar.less 0 norm then
    tabulate s.qubitCount fun i => (kept i).divScalar norm
  else
    tabulate s.qubitCount kept

/-
  Measure the qubit at a position. The outcome is one exactly
  when the draw is below the probability of one.
-/
def measure
    (position : Nat)
    (draw : R)
    (s : StateVector R) : Bool × StateVector R :=
  let outcome := Scalar.less draw (s.probabilityOne position)
  (outcome, s.collapse position outcome)

end StateVector

end QuantumRuntime

import QuantumRuntime.Failure.Program

/-
  This file defines inclusive ranges of 64-bit integers with a
  step in either direction.

  Key definitions include:
    * `Range`
    * `Range.make`
    * `Range.inclusive`
    * `Range.length`
    * `Range.count`
    * `Range.element`
    * `Range.take`
-/

namespace QuantumRuntime

/-
  The numbers from `start` towards `finish` in steps of `step`,
  with `finish` included if it is met.
-/
structure Range where
  start : Int64
  step : Int64
  finish : Int64
deriving DecidableEq, Repr

namespace Range

/- A range needs a step that leads somewhere. -/
def make
    (start step finish : Int64) : Except ProgramError Range :=
  if step = 0 then
    .error (.invalidRange start finish)
  else
    .ok { start := start, step := step, finish := finish }

/- The range that counts up by one. -/
def inclusive
    (start finish : Int64) : Range :=
  { start := start, step := 1, finish := finish }

------------------------------------------------------------
-- Length
------------------------------------------------------------

/-
  The distance from start to finish in the direction of the
  step, unless it does not fit in a signed 64-bit integer.
-/
def span
    (r : Range) : Option Int :=
  let distance :=
    if 0 < r.step then
      r.finish.toInt - r.start.toInt
    else
      r.start.toInt - r.finish.toInt
  if Int64.minValue.toInt ≤ distance ∧ distance ≤ Int64.maxValue.toInt then
    some distance
  else
    none

/- The number of elements. A range whose span does not fit has none. -/
def length
    (r : Range) : Nat :=
  match r.span with
  | some distance =>
      if 0 ≤ distance then
        distance.natAbs / r.step.toInt.natAbs + 1
      else
        0
  | none => 0

/- The range has no elements. -/
def IsEmpty
    (r : Range) : Prop :=
  r.length = 0

instance
    (r : Range) :
    Decidable r.IsEmpty := by
  unfold IsEmpty
  infer_instance

------------------------------------------------------------
-- Elements
------------------------------------------------------------

/-
  The number of elements that an iteration gives: the length,
  counted in signed 64-bit integers. A length of `2 ^ 63` is
  negative there and gives nothing.
-/
def count
    (r : Range) : Nat :=
  (Int64.ofNat r.length).toInt.toNat

/- The element with a number, computed in 64-bit integers. -/
def element
    (r : Range)
    (k : Nat) : Int64 :=
  r.start + Int64.ofNat k * r.step

/- The first elements of the iteration, at most a given number. -/
def take
    (r : Range)
    (limit : Nat) : List Int64 :=
  (List.range (min limit r.count)).map r.element

/- The text of a range. -/
def text
    (r : Range) : String :=
  s!"{r.start.toInt}..{r.step.toInt}..{r.finish.toInt}"

end Range

end QuantumRuntime

import Mathlib
import QuantumRuntime.Proofs.Sequence.RangeLength

/-
  This file proves that the iteration over a range gives the
  numbers of an arithmetic progression. They are computed in
  64-bit words, but as long as a number is counted by the
  length, neither its product nor its sum overflows.

  Key definitions include:
    * `Range.number`
    * `Range.values`
    * `Range.IsBeyond`

  Key theorems include:
    * `Range.element_eq_ofInt`
    * `Range.steps_le_distance`
    * `Range.number_mem_uIcc`
    * `Range.map_toInt_values`
    * `Range.iteration_is_exact`
-/

namespace QuantumRuntime

namespace Range

variable {r : Range}

------------------------------------------------------------
-- Numbers of the progression
------------------------------------------------------------

/- The number with an index, over the integers. -/
def number
    (r : Range)
    (k : Nat) : Int :=
  r.start.toInt + k * r.step.toInt

/- The whole iteration, from which `take` takes a prefix. -/
def values
    (r : Range) : List Int64 :=
  (List.range r.count).map r.element

/- A number lies strictly beyond the finish. -/
def IsBeyond
    (r : Range)
    (x : Int) : Prop :=
  if 0 < r.step then
    r.finish.toInt < x
  else
    x < r.finish.toInt

instance
    (r : Range)
    (x : Int) :
    Decidable (r.IsBeyond x) := by
  unfold IsBeyond
  infer_instance

theorem take_eq
    (r : Range)
    (limit : Nat) :
    r.take limit = r.values.take limit := by
  rw [values, ← List.map_take, List.take_range]
  rfl

/- Words compute the numbers of a progression up to wrapping. -/
theorem product_eq_ofInt
    (r : Range)
    (k : Nat) :
    Int64.ofNat k * r.step = Int64.ofInt (k * r.step.toInt) := by
  rw [Int64.ofInt_mul, Int64.ofInt_toInt, Int64.ofInt_eq_ofNat]

theorem element_eq_ofInt
    (r : Range)
    (k : Nat) :
    r.element k = Int64.ofInt (r.number k) := by
  rw [element, product_eq_ofInt, number, Int64.ofInt_add,
    Int64.ofInt_toInt]

------------------------------------------------------------
-- Bounds
------------------------------------------------------------

/-
  A number that is counted by the length has a whole number of
  steps before it, and all of them fit between the ends.
-/
theorem steps_le_distance
    {k : Nat}
    (hCounted : k < r.length) :
    k * (r.step.toInt.natAbs : Int) ≤ r.distance ∧
      r.distance < 2 ^ 63 := by
  have hNear : r.distance < 2 ^ 63 := by
    by_contra hFar
    rw [length_of_far (not_lt.mp hFar)] at hCounted
    exact Nat.not_lt_zero k hCounted
  rw [length_of_near hNear] at hCounted
  split at hCounted
  · exact absurd hCounted (Nat.not_lt_zero k)
  · next hAhead =>
      rw [isBehind_iff, not_lt] at hAhead
      have hSteps :
          k * r.step.toInt.natAbs ≤ r.distance.natAbs :=
        le_trans
          (Nat.mul_le_mul_right _ (Nat.lt_succ_iff.mp hCounted))
          (Nat.div_mul_le_self _ _)
      zify at hSteps
      rw [abs_of_nonneg hAhead] at hSteps
      exact ⟨by simpa using hSteps, hNear⟩

/- The product of a counted index and the step does not overflow. -/
theorem product_bounds
    {k : Nat}
    (hCounted : k < r.length) :
    -2 ^ 63 ≤ k * r.step.toInt ∧ k * r.step.toInt < 2 ^ 63 := by
  rcases steps_le_distance hCounted with ⟨hSteps, hNear⟩
  have hAbs :
      |(k : Int) * r.step.toInt| < 2 ^ 63 := by
    rw [abs_mul, Nat.abs_cast, Int.abs_eq_natAbs]
    exact lt_of_le_of_lt hSteps hNear
  rw [abs_lt] at hAbs
  exact ⟨hAbs.1.le, hAbs.2⟩

/- A number lies beyond the finish when its steps outdo the distance. -/
theorem isBeyond_number_iff
    (r : Range)
    (k : Nat) :
    r.IsBeyond (r.number k) ↔
      r.distance < k * (r.step.toInt.natAbs : Int) := by
  rw [steps_eq]
  unfold IsBeyond distance number
  split <;> omega

/- A counted number lies between the ends of its range. -/
theorem number_mem_uIcc
    {k : Nat}
    (hCounted : k < r.length) :
    r.number k ∈ Set.uIcc r.start.toInt r.finish.toInt := by
  have hSteps := (steps_le_distance hCounted).1
  have hNonneg : 0 ≤ k * (r.step.toInt.natAbs : Int) := by
    positivity
  rw [steps_eq] at hSteps hNonneg
  rw [Set.mem_uIcc, number]
  unfold distance at hSteps
  by_cases hUp : 0 < r.step
  · rw [if_pos hUp] at hNonneg
    rw [if_pos hUp, if_pos hUp] at hSteps
    omega
  · rw [if_neg hUp] at hNonneg
    rw [if_neg hUp, if_neg hUp] at hSteps
    omega

theorem number_bounds
    {k : Nat}
    (hCounted : k < r.length) :
    -2 ^ 63 ≤ r.number k ∧ r.number k < 2 ^ 63 := by
  have hBetween := Set.mem_uIcc.mp (number_mem_uIcc hCounted)
  have hStart := And.intro r.start.le_toInt r.start.toInt_lt
  have hFinish := And.intro r.finish.le_toInt r.finish.toInt_lt
  omega

/- The number after the last counted one lies beyond the finish. -/
theorem isBeyond_number_length
    (hStep : r.step ≠ 0)
    (hCounted : 0 < r.length) :
    r.IsBeyond (r.number r.length) := by
  rcases steps_le_distance hCounted with ⟨hAhead, hNear⟩
  rw [Nat.cast_zero, zero_mul] at hAhead
  have hLength := length_of_near hNear
  rw [if_neg (by rw [isBehind_iff]; omega)] at hLength
  have hPositive : 0 < r.step.toInt.natAbs :=
    Int.natAbs_pos.mpr (toInt_step_ne_zero hStep)
  -- One step more than the whole ones in a distance outdoes it.
  have hOutdone :
      r.distance.natAbs < r.length * r.step.toInt.natAbs := by
    rw [hLength, mul_comm]
    exact Nat.lt_mul_div_succ _ hPositive
  rw [isBeyond_number_iff]
  zify at hOutdone
  rw [abs_of_nonneg hAhead] at hOutdone
  simpa using hOutdone

------------------------------------------------------------
-- Iterations
------------------------------------------------------------

/- The product of a counted index and the step is exact. -/
theorem toInt_product
    {k : Nat}
    (hCounted : k < r.length) :
    (Int64.ofNat k * r.step).toInt = k * r.step.toInt := by
  rcases product_bounds hCounted with ⟨hLeast, hGreatest⟩
  rw [product_eq_ofInt, Int64.toInt_ofInt_of_le hLeast hGreatest]

/- So is the sum of the start and the product. -/
theorem toInt_element
    {k : Nat}
    (hCounted : k < r.length) :
    (r.element k).toInt = r.number k := by
  rcases number_bounds hCounted with ⟨hLeast, hGreatest⟩
  rw [element_eq_ofInt, Int64.toInt_ofInt_of_le hLeast hGreatest]

/- A length that fits in a signed word is what an iteration counts. -/
theorem count_eq_length
    (hFits : r.length < 2 ^ 63) :
    r.count = r.length := by
  rw [count, Int64.toInt_ofNat_of_lt hFits, Int.toNat_natCast]

theorem length_values
    (hFits : r.length < 2 ^ 63) :
    r.values.length = r.length := by
  rw [values, List.length_map, List.length_range,
    count_eq_length hFits]

/- The iteration gives the progression up to the length. -/
theorem map_toInt_values
    (hFits : r.length < 2 ^ 63) :
    r.values.map Int64.toInt = (List.range r.length).map r.number := by
  rw [values, count_eq_length hFits, List.map_map]
  refine List.map_congr_left fun k hMem => ?_
  exact toInt_element (List.mem_range.mp hMem)

/-
  A range whose length fits in a signed 64-bit integer is
  iterated over exactly: there are as many values as the length
  says, and the one with an index is the number with that index
  over the integers. Neither the product nor the sum that gives
  it leaves the signed 64-bit integers. All values lie between
  the ends, and the number after the last of them would lie
  strictly beyond the finish.
-/
theorem iteration_is_exact
    (r : Range)
    (hStep : r.step ≠ 0)
    (hFits : r.length < 2 ^ 63) :
    (∀ limit, r.take limit = r.values.take limit) ∧
      r.values.length = r.length ∧
      r.values.map Int64.toInt =
        (List.range r.length).map
          (fun k : Nat => r.start.toInt + k * r.step.toInt) ∧
      (∀ k : Nat, k < r.length →
        (-2 ^ 63 ≤ k * r.step.toInt ∧ k * r.step.toInt < 2 ^ 63) ∧
          (-2 ^ 63 ≤ r.start.toInt + k * r.step.toInt ∧
            r.start.toInt + k * r.step.toInt < 2 ^ 63) ∧
          (Int64.ofNat k * r.step).toInt = k * r.step.toInt) ∧
      (∀ x ∈ r.values,
        x.toInt ∈ Set.uIcc r.start.toInt r.finish.toInt) ∧
      (0 < r.length →
        r.IsBeyond (r.start.toInt + r.length * r.step.toInt)) := by
  refine ⟨r.take_eq, length_values hFits, map_toInt_values hFits,
    fun k hCounted => ⟨product_bounds hCounted,
      number_bounds hCounted, toInt_product hCounted⟩,
    fun x hMem => ?_, isBeyond_number_length hStep⟩
  rcases List.mem_map.mp hMem with ⟨k, hIndex, rfl⟩
  rw [List.mem_range, count_eq_length hFits] at hIndex
  rw [toInt_element hIndex]
  exact number_mem_uIcc hIndex

/-
  One step of a quarter of all 64-bit integers leads from the
  least of them half of the way to zero, and a second one would
  overshoot. Down from the greatest of them, a first step of half
  of them all does so.
-/
theorem large_steps_are_exact :
    let quarters : Range :=
      { start := Int64.minValue, step := 4611686018427387904
        finish := -1 }
    let half : Range :=
      { start := Int64.maxValue, step := Int64.minValue
        finish := 0 }
    quarters.step ≠ 0 ∧
      quarters.length < 2 ^ 63 ∧
      quarters.values.map Int64.toInt =
        [-9223372036854775808, -4611686018427387904] ∧
      half.step ≠ 0 ∧
      half.length < 2 ^ 63 ∧
      half.values.map Int64.toInt = [9223372036854775807] ∧
      half.IsBeyond (-1) := by
  intro quarters half
  have hQuarters : quarters.step ≠ 0 := by decide
  have hHalf : half.step ≠ 0 := by decide
  have hTwo : quarters.length = 2 := by decide
  have hOne : half.length = 1 := by decide
  have hTwoFit : quarters.length < 2 ^ 63 := by omega
  have hOneFits : half.length < 2 ^ 63 := by omega
  rcases iteration_is_exact quarters hQuarters hTwoFit with
    ⟨-, -, hValues, -⟩
  rcases iteration_is_exact half hHalf hOneFits with
    ⟨-, -, hValue, -, -, hBeyond⟩
  rw [hTwo] at hValues
  rw [hOne] at hValue hBeyond
  exact ⟨hQuarters, hTwoFit, hValues, hHalf, hOneFits, hValue,
    hBeyond Nat.one_pos⟩

end Range

end QuantumRuntime

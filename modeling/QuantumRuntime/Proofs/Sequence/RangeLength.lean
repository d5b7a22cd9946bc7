import Mathlib
import QuantumRuntime.Sequence.Range

/-
  This file compares the length of a range with the numbers
  that the range denotes. The two agree as long as the distance
  from start to finish fits in a signed 64-bit integer. A range
  that reaches farther denotes numbers but has length zero.

  Key definitions include:
    * `Range.distance`
    * `Range.IsBehind`
    * `Range.elements`

  Key theorems include:
    * `Range.length_of_near`
    * `Range.length_of_far`
    * `Range.ncard_elements`
    * `Range.length_counts_elements_unless_far`
-/

namespace QuantumRuntime

namespace Range

------------------------------------------------------------
-- What a range denotes
------------------------------------------------------------

/-
  The distance from start to finish in the direction of the
  step, over the integers.
-/
def distance
    (r : Range) : Int :=
  if 0 < r.step then
    r.finish.toInt - r.start.toInt
  else
    r.start.toInt - r.finish.toInt

/- The finish lies strictly behind the start. -/
def IsBehind
    (r : Range) : Prop :=
  if 0 < r.step then
    r.finish < r.start
  else
    r.start < r.finish

instance
    (r : Range) :
    Decidable r.IsBehind := by
  unfold IsBehind
  infer_instance

/-
  The numbers from start in steps of the step that do not lie
  beyond the finish.
-/
def elements
    (r : Range) : Set Int :=
  {x | ∃ k : Nat,
    x = r.start.toInt + k * r.step.toInt ∧
      if 0 < r.step then
        x ≤ r.finish.toInt
      else
        r.finish.toInt ≤ x}

variable {r : Range}

theorem zero_lt_step_iff :
    0 < r.step ↔ 0 < r.step.toInt := by
  simp [Int64.lt_iff_toInt_lt]

theorem toInt_step_ne_zero
    (hStep : r.step ≠ 0) :
    r.step.toInt ≠ 0 :=
  fun hZero => hStep (Int64.toInt_inj.mp hZero)

/- A distance is the one between the ends, up to its sign. -/
theorem natAbs_distance
    (r : Range) :
    r.distance.natAbs =
      (r.finish.toInt - r.start.toInt).natAbs := by
  unfold distance
  split <;> omega

theorem isBehind_iff :
    r.IsBehind ↔ r.distance < 0 := by
  unfold IsBehind distance
  split <;> simp only [Int64.lt_iff_toInt_lt] <;> omega

/-
  The size of a whole number of steps is their sum or its
  negation, by the direction of the range.
-/
theorem steps_eq
    (r : Range)
    (k : Nat) :
    k * (r.step.toInt.natAbs : Int) =
      if 0 < r.step then
        k * r.step.toInt
      else
        -(k * r.step.toInt) := by
  split
  · next hUp =>
      rw [zero_lt_step_iff] at hUp
      rw [Int.natAbs_of_nonneg hUp.le]
  · next hDown =>
      rw [zero_lt_step_iff, not_lt] at hDown
      rw [Int.ofNat_natAbs_of_nonpos hDown, mul_neg]

/-
  The number with an index is in the range when its distance
  from the start is not larger than that of the finish.
-/
theorem mem_elements_iff
    (x : Int) :
    x ∈ r.elements ↔
      ∃ k : Nat,
        x = r.start.toInt + k * r.step.toInt ∧
          k * (r.step.toInt.natAbs : Int) ≤ r.distance := by
  refine exists_congr fun k => and_congr_right ?_
  rintro rfl
  rw [steps_eq]
  unfold distance
  split <;> omega

/- A range whose finish lies behind its start denotes nothing. -/
theorem elements_of_isBehind
    (hBehind : r.IsBehind) :
    r.elements = ∅ := by
  rw [isBehind_iff] at hBehind
  ext x
  rw [mem_elements_iff]
  simp only [Set.mem_empty_iff_false, iff_false, not_exists,
    not_and, not_le]
  intro k _
  have hNonneg : (0 : Int) ≤ k * r.step.toInt.natAbs := by
    positivity
  omega

/- Otherwise it denotes one number for each whole step. -/
theorem ncard_elements
    (hStep : r.step ≠ 0)
    (hAhead : ¬ r.IsBehind) :
    r.elements.ncard =
      r.distance.natAbs / r.step.toInt.natAbs + 1 := by
  rw [isBehind_iff, not_lt] at hAhead
  have hNonzero := toInt_step_ne_zero hStep
  have hPositive : 0 < r.step.toInt.natAbs :=
    Int.natAbs_pos.mpr hNonzero
  let number : Nat → Int :=
    fun k => r.start.toInt + k * r.step.toInt
  have hInjective : Function.Injective number := by
    intro k k' hSame
    have hProducts :
        (k : Int) * r.step.toInt = k' * r.step.toInt :=
      add_left_cancel hSame
    exact Int.ofNat.inj (mul_right_cancel₀ hNonzero hProducts)
  have hImage :
      r.elements =
        number ''
          ↑(Finset.range
            (r.distance.natAbs / r.step.toInt.natAbs + 1)) := by
    ext x
    rw [mem_elements_iff]
    simp only [Set.mem_image, Finset.coe_range, Set.mem_Iio,
      Nat.lt_succ_iff, Nat.le_div_iff_mul_le hPositive]
    refine exists_congr fun k => ?_
    rw [and_comm, eq_comm]
    refine and_congr_left fun _ => ?_
    zify
    rw [abs_of_nonneg hAhead]
  rw [hImage, Set.ncard_image_of_injective _ hInjective,
    Set.ncard_coe_finset, Finset.card_range]

------------------------------------------------------------
-- Lengths
------------------------------------------------------------

theorem span_eq
    (r : Range) :
    r.span =
      if -2 ^ 63 ≤ r.distance ∧ r.distance < 2 ^ 63 then
        some r.distance
      else
        none := by
  have hBounds :
      (Int64.minValue.toInt ≤ r.distance ∧
          r.distance ≤ Int64.maxValue.toInt) ↔
        -2 ^ 63 ≤ r.distance ∧ r.distance < 2 ^ 63 := by
    have hLeast : Int64.minValue.toInt = -2 ^ 63 := rfl
    have hGreatest : Int64.maxValue.toInt = 2 ^ 63 - 1 := rfl
    rw [hLeast, hGreatest]
    omega
  exact if_congr hBounds rfl rfl

/-
  A distance that fits gives the number of whole steps in it,
  or zero if it leads backwards, however far.
-/
theorem length_of_near
    (hNear : r.distance < 2 ^ 63) :
    r.length =
      if r.IsBehind then
        0
      else
        r.distance.natAbs / r.step.toInt.natAbs + 1 := by
  unfold length
  rw [span_eq]
  by_cases hBehind : r.IsBehind
  · rw [if_pos hBehind]
    rw [isBehind_iff] at hBehind
    split
    · next hSpan =>
        split at hSpan
        · cases hSpan
          exact if_neg (by omega)
        · cases hSpan
    · rfl
  · rw [if_neg hBehind]
    rw [isBehind_iff] at hBehind
    rw [if_pos ⟨by omega, hNear⟩]
    exact if_pos (by omega)

/- A distance that does not fit gives no length at all. -/
theorem length_of_far
    (hFar : 2 ^ 63 ≤ r.distance) :
    r.length = 0 := by
  unfold length
  rw [span_eq, if_neg (by omega)]

/-
  Unless the finish lies farther ahead of the start than a
  signed 64-bit integer can say, a range is empty exactly when
  its finish lies strictly behind its start, and otherwise its
  length is the number of whole steps between them plus one: the
  number of the elements that it denotes. A range that reaches
  farther denotes at least its start, but its length is zero.
-/
theorem length_counts_elements_unless_far
    (r : Range)
    (hStep : r.step ≠ 0) :
    (r.distance < 2 ^ 63 →
      (r.IsEmpty ↔ r.IsBehind) ∧
        (¬ r.IsBehind →
          r.length =
            (r.finish.toInt - r.start.toInt).natAbs /
                r.step.toInt.natAbs + 1) ∧
        r.length = r.elements.ncard) ∧
      (2 ^ 63 ≤ r.distance →
        r.IsEmpty ∧ ¬ r.IsBehind ∧ r.start.toInt ∈ r.elements) := by
  constructor
  · intro hNear
    have hLength := length_of_near hNear
    by_cases hBehind : r.IsBehind
    · rw [if_pos hBehind] at hLength
      refine ⟨iff_of_true hLength hBehind, absurd hBehind, ?_⟩
      rw [hLength, elements_of_isBehind hBehind, Set.ncard_empty]
    · rw [if_neg hBehind] at hLength
      refine ⟨iff_of_false ?_ hBehind, fun _ => ?_, ?_⟩
      · rw [IsEmpty, hLength]
        exact Nat.succ_ne_zero _
      · rw [hLength, natAbs_distance]
      · rw [hLength, ncard_elements hStep hBehind]
  · intro hFar
    refine ⟨length_of_far hFar, ?_, ?_⟩
    · rw [isBehind_iff]
      omega
    · rw [mem_elements_iff]
      refine ⟨0, by simp, ?_⟩
      simp only [Nat.cast_zero, zero_mul]
      omega

/-
  Nine numbers lie between 42 and zero in steps of minus five,
  while a range over half of all 64-bit integers is too long.
-/
theorem nine_steps_down_to_zero :
    let near : Range := { start := 42, step := -5, finish := 0 }
    let far : Range :=
      { start := Int64.minValue, step := 1, finish := 0 }
    near.step ≠ 0 ∧
      near.distance < 2 ^ 63 ∧
      near.length = 9 ∧
      near.elements.ncard = 9 ∧
      far.step ≠ 0 ∧
      2 ^ 63 ≤ far.distance ∧
      far.IsEmpty := by
  intro near far
  have hNearStep : near.step ≠ 0 := by decide
  have hFarStep : far.step ≠ 0 := by decide
  have hNear : near.distance < 2 ^ 63 := by decide
  have hFar : 2 ^ 63 ≤ far.distance := by decide
  have hLength : near.length = 9 := by decide
  rcases (length_counts_elements_unless_far near hNearStep).1
      hNear with
    ⟨-, -, hCounts⟩
  exact ⟨hNearStep, hNear, hLength, hCounts.symm.trans hLength,
    hFarStep, hFar,
    ((length_counts_elements_unless_far far hFarStep).2 hFar).1⟩

/-
  From the least 64-bit integer up to zero there are more than
  `2 ^ 63` numbers but fewer than `2 ^ 64`, and the finish does
  not lie behind the start. Yet the range is empty.
-/
theorem half_of_all_integers_has_no_length :
    let r : Range :=
      { start := Int64.minValue, step := 1, finish := 0 }
    ¬ (r.step ≠ 0 →
        (r.IsEmpty ↔ r.IsBehind) ∧
          (¬ r.IsBehind →
            (r.finish.toInt - r.start.toInt).natAbs /
                  r.step.toInt.natAbs + 1 < 2 ^ 64 →
              r.length =
                (r.finish.toInt - r.start.toInt).natAbs /
                    r.step.toInt.natAbs + 1)) := by
  intro r hClaim
  have hStep : r.step ≠ 0 := by decide
  have hEmpty : r.IsEmpty := by decide
  have hBehind : r.IsBehind := (hClaim hStep).1.mp hEmpty
  exact absurd hBehind (by decide)

end Range

end QuantumRuntime

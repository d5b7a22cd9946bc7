import Mathlib.Analysis.SpecialFunctions.Trigonometric.Basic
import QuantumRuntime.Simulator.StateVector

/-
  This file reads the scalar arithmetic over the real numbers,
  where it is exact, and derives the laws of amplitudes and of
  the gates that take basis states to basis states. Up to a
  phase, such a gate keeps or exchanges the two amplitudes of
  each pair.

  Key theorems include:
    * `Amplitude.normSq_mul`
    * `Amplitude.normSq_phase`
    * `StateVector.act_of_isDiagonal`
    * `StateVector.act_of_isBitFlip`
-/

namespace QuantumRuntime

------------------------------------------------------------
-- Real scalars
------------------------------------------------------------

/- Real numbers are scalars. They have no finite text. -/
noncomputable instance : Scalar ℝ where
  sqrt := Real.sqrt
  cos := Real.cos
  sin := Real.sin
  invSqrtTwo := 1 / Real.sqrt 2
  eighthTurn := Real.pi / 4
  less a b := decide (a < b)
  text _ := "real"

------------------------------------------------------------
-- Amplitudes
------------------------------------------------------------

namespace Amplitude

/- Amplitudes with the same parts are equal. -/
theorem ext_parts
    {R : Type}
    {a b : Amplitude R}
    (hRe : a.re = b.re)
    (hIm : a.im = b.im) :
    a = b := by
  cases a
  cases b
  cases hRe
  cases hIm
  rfl

@[simp] theorem mul_zero
    (a : Amplitude ℝ) :
    a * 0 = 0 := by
  apply ext_parts
  · show a.re * (0 : ℝ) - a.im * (0 : ℝ) = 0
    ring
  · show a.re * (0 : ℝ) + a.im * (0 : ℝ) = 0
    ring

@[simp] theorem zero_mul
    (a : Amplitude ℝ) :
    0 * a = 0 := by
  apply ext_parts
  · show (0 : ℝ) * a.re - (0 : ℝ) * a.im = 0
    ring
  · show (0 : ℝ) * a.im + (0 : ℝ) * a.re = 0
    ring

@[simp] theorem one_mul
    (a : Amplitude ℝ) :
    1 * a = a := by
  apply ext_parts
  · show (1 : ℝ) * a.re - (0 : ℝ) * a.im = a.re
    ring
  · show (1 : ℝ) * a.im + (0 : ℝ) * a.re = a.im
    ring

@[simp] theorem add_zero
    (a : Amplitude ℝ) :
    a + 0 = a := by
  apply ext_parts
  · show a.re + (0 : ℝ) = a.re
    ring
  · show a.im + (0 : ℝ) = a.im
    ring

@[simp] theorem zero_add
    (a : Amplitude ℝ) :
    0 + a = a := by
  apply ext_parts
  · show (0 : ℝ) + a.re = a.re
    ring
  · show (0 : ℝ) + a.im = a.im
    ring

@[simp] theorem divScalar_one
    (a : Amplitude ℝ) :
    a.divScalar 1 = a := by
  apply ext_parts
  · exact div_one a.re
  · exact div_one a.im

/- The squared modulus is multiplicative. -/
theorem normSq_mul
    (a b : Amplitude ℝ) :
    (a * b).normSq = a.normSq * b.normSq := by
  show (a.re * b.re - a.im * b.im) * (a.re * b.re - a.im * b.im) +
      (a.re * b.im + a.im * b.re) * (a.re * b.im + a.im * b.re) =
    (a.re * a.re + a.im * a.im) * (b.re * b.re + b.im * b.im)
  ring

@[simp] theorem normSq_zero :
    (0 : Amplitude ℝ).normSq = 0 := by
  show (0 : ℝ) * 0 + 0 * 0 = 0
  ring

@[simp] theorem normSq_one :
    (1 : Amplitude ℝ).normSq = 1 := by
  show (1 : ℝ) * 1 + 0 * 0 = 1
  ring

@[simp] theorem normSq_imaginary :
    (imaginary : Amplitude ℝ).normSq = 1 := by
  show (0 : ℝ) * 0 + 1 * 1 = 1
  ring

@[simp] theorem normSq_neg
    (a : Amplitude ℝ) :
    (-a).normSq = a.normSq := by
  show (-a.re) * (-a.re) + (-a.im) * (-a.im) =
    a.re * a.re + a.im * a.im
  ring

/- A phase has modulus one. -/
@[simp] theorem normSq_phase
    (angle : ℝ) :
    (phase angle).normSq = 1 := by
  have hCircle := Real.cos_sq_add_sin_sq angle
  show (1 * Real.cos angle) * (1 * Real.cos angle) +
    (1 * Real.sin angle) * (1 * Real.sin angle) = 1
  linarith

/- An amplitude of modulus one is not zero. -/
theorem ne_zero_of_normSq
    {a : Amplitude ℝ}
    (hUnit : a.normSq = 1) :
    a ≠ 0 := by
  rintro rfl
  rw [normSq_zero] at hUnit
  exact zero_ne_one hUnit

end Amplitude

------------------------------------------------------------
-- Gates
------------------------------------------------------------

namespace StateVector

/- A matrix that keeps the two amplitudes up to factors. -/
theorem GateMatrix.act_diagonal
    (u v a b : Amplitude ℝ) :
    ({ m00 := u, m01 := 0, m10 := 0, m11 := v } :
        GateMatrix ℝ).act a b = (u * a, v * b) := by
  simp [act]

/- A matrix that exchanges the two amplitudes up to factors. -/
theorem GateMatrix.act_exchange
    (u v a b : Amplitude ℝ) :
    ({ m00 := 0, m01 := u, m10 := v, m11 := 0 } :
        GateMatrix ℝ).act a b = (u * b, v * a) := by
  simp [act]

/- A diagonal gate multiplies each amplitude by a phase. -/
theorem act_of_isDiagonal
    {g : Gate ℝ}
    (hDiagonal : g.IsDiagonal) :
    ∃ u v : Amplitude ℝ, u.normSq = 1 ∧ v.normSq = 1 ∧
      ∀ a b, (gateMatrix g).act a b = (u * a, v * b) := by
  cases g with
  | i | z | s | sdg | t | tdg | rz angle | r1 angle =>
      exact ⟨_, _, by simp, by simp, GateMatrix.act_diagonal _ _⟩
  | _ => exact hDiagonal.elim

/- A bit flip exchanges amplitudes up to a phase. -/
theorem act_of_isBitFlip
    {g : Gate ℝ}
    (hFlip : g.IsBitFlip) :
    ∃ u v : Amplitude ℝ, u.normSq = 1 ∧ v.normSq = 1 ∧
      ∀ a b, (gateMatrix g).act a b = (u * b, v * a) := by
  cases g with
  | x | y =>
      exact ⟨_, _, by simp, by simp, GateMatrix.act_exchange _ _⟩
  | _ => exact hFlip.elim

end StateVector

end QuantumRuntime

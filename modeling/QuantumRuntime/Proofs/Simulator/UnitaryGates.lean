import QuantumRuntime.Proofs.AmplitudeLaws
import QuantumRuntime.Proofs.Simulator.GatePairs

/-
  This file proves that every gate is unitary over the real
  numbers: the columns of its matrix are orthonormal, exactly
  and not up to a phase. So the adjoint gate undoes it on each
  pair of amplitudes, and no gate changes the weight of a pair.
  In any ring, moving a pair is the same as its matrix.

  Key definitions include:
    * `Amplitude.conj`
    * `StateVector.GateMatrix.adjoint`
    * `StateVector.GateMatrix.IsUnitary`

  Key theorems include:
    * `StateVector.isUnitary_gateMatrix`
    * `StateVector.gateMatrix_adjoint`
    * `StateVector.gateAction_eq_act`
    * `StateVector.gateAction_adjoint`
    * `StateVector.normSq_gateAction`
-/

namespace QuantumRuntime

------------------------------------------------------------
-- Conjugates
------------------------------------------------------------

namespace Amplitude

/- The complex conjugate. -/
def conj
    (a : Amplitude ℝ) : Amplitude ℝ :=
  { re := a.re
    im := -a.im }

theorem re_conj
    (a : Amplitude ℝ) :
    a.conj.re = a.re :=
  rfl

theorem im_conj
    (a : Amplitude ℝ) :
    a.conj.im = -a.im :=
  rfl

@[simp] theorem conj_zero :
    conj 0 = 0 := by
  apply ext_parts
  · rfl
  · exact neg_zero

@[simp] theorem conj_one :
    conj 1 = 1 := by
  apply ext_parts
  · rfl
  · exact neg_zero

@[simp] theorem conj_conj
    (a : Amplitude ℝ) :
    a.conj.conj = a := by
  apply ext_parts
  · rfl
  · exact neg_neg a.im

theorem conj_neg
    (a : Amplitude ℝ) :
    conj (-a) = -conj a := by
  apply ext_parts
  · rfl
  · rfl

@[simp] theorem conj_imaginary :
    conj imaginary = -imaginary := by
  apply ext_parts
  · exact neg_zero.symm
  · rfl

@[simp] theorem conj_ofReal
    (x : ℝ) :
    conj (ofReal x) = ofReal x := by
  apply ext_parts
  · rfl
  · exact neg_zero

@[simp] protected theorem neg_neg
    (a : Amplitude ℝ) :
    - -a = a := by
  apply ext_parts
  · exact neg_neg a.re
  · exact neg_neg a.im

theorem ofReal_neg
    (x : ℝ) :
    ofReal (-x) = -ofReal x := by
  apply ext_parts
  · rfl
  · exact neg_zero.symm

theorem re_ofReal
    (x : ℝ) :
    (ofReal x).re = x :=
  rfl

theorem im_ofReal
    (x : ℝ) :
    (ofReal x).im = 0 :=
  rfl

@[simp] theorem normSq_ofReal
    (x : ℝ) :
    (ofReal x).normSq = x * x := by
  show x * x + 0 * 0 = x * x
  ring

/- The conjugate of a phase turns the other way. -/
theorem phase_neg
    (angle : ℝ) :
    phase (-angle) = (phase angle).conj := by
  apply ext_parts
  · show 1 * Real.cos (-angle) = 1 * Real.cos angle
    rw [Real.cos_neg]
  · show 1 * Real.sin (-angle) = -(1 * Real.sin angle)
    rw [Real.sin_neg, mul_neg]

end Amplitude

------------------------------------------------------------
-- Unitary matrices
------------------------------------------------------------

namespace StateVector

namespace GateMatrix

/- The conjugate transpose. -/
def adjoint
    (m : GateMatrix ℝ) : GateMatrix ℝ :=
  { m00 := m.m00.conj
    m01 := m.m10.conj
    m10 := m.m01.conj
    m11 := m.m11.conj }

/- The columns of a matrix are orthonormal. -/
structure IsUnitary
    (m : GateMatrix ℝ) : Prop where
  first_unit :
    m.m00.normSq + m.m10.normSq = 1
  second_unit :
    m.m01.normSq + m.m11.normSq = 1
  orthogonal :
    m.m00.conj * m.m01 + m.m10.conj * m.m11 = 0

namespace IsUnitary

variable {m : GateMatrix ℝ}

/- The real part of orthogonality. -/
theorem orthogonal_re
    (hUnitary : m.IsUnitary) :
    m.m00.re * m.m01.re + m.m00.im * m.m01.im +
      (m.m10.re * m.m11.re + m.m10.im * m.m11.im) = 0 := by
  have hRe := congrArg Amplitude.re hUnitary.orthogonal
  simp only [Amplitude.re_add, Amplitude.re_mul,
    Amplitude.re_conj, Amplitude.im_conj, Amplitude.re_zero] at hRe
  linear_combination hRe

/- The imaginary part of orthogonality. -/
theorem orthogonal_im
    (hUnitary : m.IsUnitary) :
    m.m00.re * m.m01.im - m.m00.im * m.m01.re +
      (m.m10.re * m.m11.im - m.m10.im * m.m11.re) = 0 := by
  have hIm := congrArg Amplitude.im hUnitary.orthogonal
  simp only [Amplitude.im_add, Amplitude.im_mul,
    Amplitude.re_conj, Amplitude.im_conj, Amplitude.im_zero] at hIm
  linear_combination hIm

/- The conjugate transpose undoes a unitary matrix. -/
theorem adjoint_act
    (hUnitary : m.IsUnitary)
    (a b : Amplitude ℝ) :
    m.adjoint.act (m.act a b).1 (m.act a b).2 = (a, b) := by
  have hFirst := hUnitary.first_unit
  have hSecond := hUnitary.second_unit
  have hRe := hUnitary.orthogonal_re
  have hIm := hUnitary.orthogonal_im
  unfold Amplitude.normSq at hFirst hSecond
  apply Prod.ext <;> apply Amplitude.ext_parts <;>
    simp only [act, adjoint, Amplitude.re_add, Amplitude.im_add,
      Amplitude.re_mul, Amplitude.im_mul, Amplitude.re_conj,
      Amplitude.im_conj]
  · linear_combination a.re * hFirst + b.re * hRe - b.im * hIm
  · linear_combination a.im * hFirst + b.im * hRe + b.re * hIm
  · linear_combination b.re * hSecond + a.re * hRe + a.im * hIm
  · linear_combination b.im * hSecond + a.im * hRe - a.re * hIm

/- A unitary matrix keeps the weight of a pair. -/
theorem normSq_act
    (hUnitary : m.IsUnitary)
    (a b : Amplitude ℝ) :
    (m.act a b).1.normSq + (m.act a b).2.normSq =
      a.normSq + b.normSq := by
  have hFirst := hUnitary.first_unit
  have hSecond := hUnitary.second_unit
  have hRe := hUnitary.orthogonal_re
  have hIm := hUnitary.orthogonal_im
  simp only [act, Amplitude.normSq, Amplitude.re_add,
    Amplitude.im_add, Amplitude.re_mul, Amplitude.im_mul]
    at hFirst hSecond ⊢
  linear_combination
    (a.re * a.re + a.im * a.im) * hFirst +
      (b.re * b.re + b.im * b.im) * hSecond +
      2 * (a.re * b.re + a.im * b.im) * hRe +
      2 * (a.im * b.re - a.re * b.im) * hIm

end IsUnitary

end GateMatrix

------------------------------------------------------------
-- Gates
------------------------------------------------------------

/- A diagonal matrix of phases is unitary. -/
theorem GateMatrix.isUnitary_diagonal
    {u v : Amplitude ℝ}
    (hU : u.normSq = 1)
    (hV : v.normSq = 1) :
    ({ m00 := u, m01 := 0, m10 := 0, m11 := v } :
      GateMatrix ℝ).IsUnitary := by
  refine ⟨?_, ?_, ?_⟩
  · simp [hU]
  · simp [hV]
  · simp

/- So is a matrix of phases that exchanges the amplitudes. -/
theorem GateMatrix.isUnitary_exchange
    {u v : Amplitude ℝ}
    (hU : u.normSq = 1)
    (hV : v.normSq = 1) :
    ({ m00 := 0, m01 := u, m10 := v, m11 := 0 } :
      GateMatrix ℝ).IsUnitary := by
  refine ⟨?_, ?_, ?_⟩
  · simp [hV]
  · simp [hU]
  · simp

/- A symmetric matrix that mixes the amplitudes is unitary. -/
theorem GateMatrix.isUnitary_symmetric
    {u v : Amplitude ℝ}
    (hUnit : u.normSq + v.normSq = 1)
    (hOrthogonal : u.re * v.re + u.im * v.im = 0) :
    ({ m00 := u, m01 := v, m10 := v, m11 := u } :
      GateMatrix ℝ).IsUnitary := by
  refine ⟨hUnit, (add_comm _ _).trans hUnit, ?_⟩
  apply Amplitude.ext_parts <;>
    simp only [Amplitude.re_add, Amplitude.im_add,
      Amplitude.re_mul, Amplitude.im_mul, Amplitude.re_conj,
      Amplitude.im_conj, Amplitude.re_zero, Amplitude.im_zero]
  · linear_combination 2 * hOrthogonal
  · ring

/- A turn by a real cosine and sine is unitary. -/
theorem GateMatrix.isUnitary_turn
    {c s : ℝ}
    (hCircle : c * c + s * s = 1) :
    ({ m00 := .ofReal c
       m01 := -.ofReal s
       m10 := .ofReal s
       m11 := .ofReal c } : GateMatrix ℝ).IsUnitary := by
  constructor
  · simpa using hCircle
  · simpa [add_comm] using hCircle
  · apply Amplitude.ext_parts <;>
      simp only [Amplitude.conj_ofReal, Amplitude.re_add,
        Amplitude.im_add, Amplitude.re_mul, Amplitude.im_mul,
        Amplitude.re_neg, Amplitude.im_neg,
        Amplitude.re_ofReal, Amplitude.im_ofReal,
        Amplitude.re_zero, Amplitude.im_zero] <;>
      ring

/- So is the reflection with the same entries. -/
theorem GateMatrix.isUnitary_reflection
    {c s : ℝ}
    (hCircle : c * c + s * s = 1) :
    ({ m00 := .ofReal c
       m01 := .ofReal s
       m10 := .ofReal s
       m11 := -.ofReal c } : GateMatrix ℝ).IsUnitary := by
  constructor
  · simpa using hCircle
  · simpa [add_comm] using hCircle
  · apply Amplitude.ext_parts <;>
      simp only [Amplitude.conj_ofReal, Amplitude.re_add,
        Amplitude.im_add, Amplitude.re_mul, Amplitude.im_mul,
        Amplitude.re_neg, Amplitude.im_neg,
        Amplitude.re_ofReal, Amplitude.im_ofReal,
        Amplitude.re_zero, Amplitude.im_zero] <;>
      ring

theorem invSqrtTwo_mul_self :
    (Scalar.invSqrtTwo : ℝ) * Scalar.invSqrtTwo = 1 / 2 := by
  show 1 / Real.sqrt 2 * (1 / Real.sqrt 2) = 1 / 2
  rw [div_mul_div_comm, one_mul, Real.mul_self_sqrt (by norm_num)]

theorem half_real :
    (Scalar.half : ℝ) = 1 / 2 := by
  show (1 : ℝ) / (1 + 1) = 1 / 2
  norm_num

theorem cos_mul_self_add_sin_mul_self
    (angle : ℝ) :
    (Scalar.cos angle : ℝ) * Scalar.cos angle +
      Scalar.sin angle * Scalar.sin angle = 1 := by
  have hCircle := Real.cos_sq_add_sin_sq angle
  rw [sq, sq] at hCircle
  exact hCircle

/- Every gate is unitary. -/
theorem isUnitary_gateMatrix
    (g : Gate ℝ) :
    (gateMatrix g).IsUnitary := by
  cases g with
  | i | z | s | sdg | t | tdg | rz angle | r1 angle =>
      exact GateMatrix.isUnitary_diagonal (by simp) (by simp)
  | x | y =>
      exact GateMatrix.isUnitary_exchange (by simp) (by simp)
  | h =>
      apply GateMatrix.isUnitary_reflection
      rw [invSqrtTwo_mul_self]
      norm_num
  | sx | sxdg =>
      apply GateMatrix.isUnitary_symmetric
      · simp only [Amplitude.normSq, half_real]
        norm_num
      · simp only [half_real]
        norm_num
  | rx angle =>
      apply GateMatrix.isUnitary_symmetric
      · simpa [Amplitude.normSq, Amplitude.ofReal] using
          cos_mul_self_add_sin_mul_self (angle / Scalar.two)
      · simp [Amplitude.ofReal]
  | ry angle =>
      exact GateMatrix.isUnitary_turn
        (cos_mul_self_add_sin_mul_self _)

/- The adjoint of a gate has the conjugate transpose as its matrix. -/
theorem gateMatrix_adjoint
    (g : Gate ℝ) :
    gateMatrix g.adjoint = (gateMatrix g).adjoint := by
  have hHalf (angle : ℝ) :
      -angle / (Scalar.two : ℝ) = -(angle / Scalar.two) :=
    neg_div _ angle
  have hCos (angle : ℝ) :
      (Scalar.cos (-angle) : ℝ) = Scalar.cos angle :=
    Real.cos_neg angle
  have hSin (angle : ℝ) :
      (Scalar.sin (-angle) : ℝ) = -Scalar.sin angle :=
    Real.sin_neg angle
  cases g with
  | rx angle =>
      simp [Gate.adjoint, gateMatrix, GateMatrix.adjoint, hHalf,
        hCos, hSin, Amplitude.conj, Amplitude.ofReal]
  | ry angle =>
      simp [Gate.adjoint, gateMatrix, GateMatrix.adjoint, hHalf,
        hCos, hSin, Amplitude.ofReal_neg, Amplitude.conj_neg]
  | rz angle =>
      simp [Gate.adjoint, gateMatrix, GateMatrix.adjoint, hHalf,
        Amplitude.phase_neg]
  | sx | sxdg =>
      simp [Gate.adjoint, gateMatrix, GateMatrix.adjoint,
        Amplitude.conj]
  | _ =>
      simp [Gate.adjoint, gateMatrix, GateMatrix.adjoint,
        Amplitude.phase_neg, Amplitude.conj_neg]

------------------------------------------------------------
-- Actions
------------------------------------------------------------

/-
  Moving the amplitudes of a pair without arithmetic is what the
  matrix does where the laws of a ring hold.
-/
theorem gateAction_eq_act
    {R : Type}
    [Scalar R]
    (hLaws : Amplitude.RingLaws R)
    (g : Gate R)
    (a b : Amplitude R) :
    gateAction g a b = (gateMatrix g).act a b := by
  let := hLaws.commRing
  cases g with
  | i =>
      show (a, b) = (1 * a + 0 * b, 0 * a + 1 * b)
      congr 1 <;> ring
  | x =>
      show (b, a) = (0 * a + 1 * b, 1 * a + 0 * b)
      congr 1 <;> ring
  | _ => rfl

/- The adjoint gate undoes a gate on every pair. -/
theorem gateAction_adjoint
    (g : Gate ℝ)
    (a b : Amplitude ℝ) :
    gateAction g.adjoint (gateAction g a b).1
      (gateAction g a b).2 = (a, b) := by
  simp only [gateAction_eq_act Amplitude.ringLaws_real]
  rw [gateMatrix_adjoint]
  exact (isUnitary_gateMatrix g).adjoint_act a b

/- A gate keeps the weight of every pair. -/
theorem normSq_gateAction
    (g : Gate ℝ)
    (a b : Amplitude ℝ) :
    (gateAction g a b).1.normSq + (gateAction g a b).2.normSq =
      a.normSq + b.normSq := by
  rw [gateAction_eq_act Amplitude.ringLaws_real]
  exact (isUnitary_gateMatrix g).normSq_act a b

end StateVector

end QuantumRuntime

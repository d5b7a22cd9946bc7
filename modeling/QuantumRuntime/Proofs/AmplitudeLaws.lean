import Mathlib.Tactic.LinearCombination
import QuantumRuntime.Proofs.ExactReal

/-
  This file states the laws of a commutative ring for the
  arithmetic of amplitudes, which floating-point arithmetic does
  not obey, and proves them over the real numbers. The laws of
  zero alone are stated apart.

  Key definitions include:
    * `Amplitude.ZeroLaws`
    * `Amplitude.RingLaws`
    * `Amplitude.RingLaws.commRing`

  Key theorems include:
    * `Amplitude.ringLaws_real`
-/

namespace QuantumRuntime

namespace Amplitude

------------------------------------------------------------
-- Parts
------------------------------------------------------------

section

variable {R : Type} [Scalar R]

theorem re_zero :
    (0 : Amplitude R).re = 0 :=
  rfl

theorem im_zero :
    (0 : Amplitude R).im = 0 :=
  rfl

theorem re_add
    (a b : Amplitude R) :
    (a + b).re = a.re + b.re :=
  rfl

theorem im_add
    (a b : Amplitude R) :
    (a + b).im = a.im + b.im :=
  rfl

theorem re_mul
    (a b : Amplitude R) :
    (a * b).re = a.re * b.re - a.im * b.im :=
  rfl

theorem im_mul
    (a b : Amplitude R) :
    (a * b).im = a.re * b.im + a.im * b.re :=
  rfl

theorem re_neg
    (a : Amplitude R) :
    (-a).re = -a.re :=
  rfl

theorem im_neg
    (a : Amplitude R) :
    (-a).im = -a.im :=
  rfl

end

------------------------------------------------------------
-- Laws
------------------------------------------------------------

/- Zero amplitudes stay zero when they are multiplied and added. -/
structure ZeroLaws
    (R : Type)
    [Scalar R] : Prop where
  mul_zero :
    ∀ a : Amplitude R, a * 0 = 0
  add_zero :
    (0 : Amplitude R) + 0 = 0

/- The arithmetic of amplitudes is that of a commutative ring. -/
structure RingLaws
    (R : Type)
    [Scalar R] : Prop where
  add_assoc :
    ∀ a b c : Amplitude R, a + b + c = a + (b + c)
  add_comm :
    ∀ a b : Amplitude R, a + b = b + a
  zero_add :
    ∀ a : Amplitude R, 0 + a = a
  neg_add_cancel :
    ∀ a : Amplitude R, -a + a = 0
  mul_assoc :
    ∀ a b c : Amplitude R, a * b * c = a * (b * c)
  mul_comm :
    ∀ a b : Amplitude R, a * b = b * a
  one_mul :
    ∀ a : Amplitude R, 1 * a = a
  mul_add :
    ∀ a b c : Amplitude R, a * (b + c) = a * b + a * c

namespace RingLaws

variable {R : Type} [Scalar R]

/- Zero times anything is zero, since it is twice itself. -/
theorem mul_zero
    (hLaws : RingLaws R)
    (a : Amplitude R) :
    a * 0 = 0 := by
  have hTwice : a * 0 + a * 0 = a * 0 := by
    rw [← hLaws.mul_add, hLaws.zero_add]
  calc
    a * 0 = -(a * 0) + a * 0 + a * 0 := by
      rw [hLaws.neg_add_cancel, hLaws.zero_add]
    _ = -(a * 0) + a * 0 := by
      rw [hLaws.add_assoc, hTwice]
    _ = 0 := hLaws.neg_add_cancel _

theorem zeroLaws
    (hLaws : RingLaws R) :
    ZeroLaws R where
  mul_zero := hLaws.mul_zero
  add_zero := hLaws.zero_add 0

/- The ring of amplitudes, for proofs that calculate in it. -/
@[reducible]
def commRing
    (hLaws : RingLaws R) : CommRing (Amplitude R) where
  add_assoc := hLaws.add_assoc
  add_comm := hLaws.add_comm
  zero_add := hLaws.zero_add
  add_zero a := (hLaws.add_comm a 0).trans (hLaws.zero_add a)
  neg_add_cancel := hLaws.neg_add_cancel
  mul_assoc := hLaws.mul_assoc
  mul_comm := hLaws.mul_comm
  one_mul := hLaws.one_mul
  mul_one a := (hLaws.mul_comm a 1).trans (hLaws.one_mul a)
  left_distrib := hLaws.mul_add
  right_distrib a b c := by
    rw [hLaws.mul_comm, hLaws.mul_add, hLaws.mul_comm c a,
      hLaws.mul_comm c b]
  zero_mul a := (hLaws.mul_comm 0 a).trans (hLaws.mul_zero a)
  mul_zero := hLaws.mul_zero
  nsmul := nsmulRec
  zsmul := zsmulRec

end RingLaws

/- Complex numbers in two real parts are a ring. -/
theorem ringLaws_real :
    RingLaws ℝ where
  add_assoc a b c := by
    apply ext_parts <;> simp only [re_add, im_add] <;> ring
  add_comm a b := by
    apply ext_parts <;> simp only [re_add, im_add] <;> ring
  zero_add := zero_add
  neg_add_cancel a := by
    apply ext_parts <;>
      simp only [re_add, im_add, re_neg, im_neg, re_zero,
        im_zero] <;> ring
  mul_assoc a b c := by
    apply ext_parts <;> simp only [re_mul, im_mul] <;> ring
  mul_comm a b := by
    apply ext_parts <;> simp only [re_mul, im_mul] <;> ring
  one_mul := one_mul
  mul_add a b c := by
    apply ext_parts <;>
      simp only [re_mul, im_mul, re_add, im_add] <;> ring

end Amplitude

end QuantumRuntime

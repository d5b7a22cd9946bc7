import QuantumRuntime.Scalar

/-
  This file defines complex amplitudes over a scalar
  arithmetic. Each operation fixes the order in which the
  scalar operations are performed, since floating-point results
  depend on it.

  Key definitions include:
    * `Amplitude`
    * `Amplitude.normSq`
    * `Amplitude.divScalar`
    * `Amplitude.phase`
-/

namespace QuantumRuntime

/- A complex number given by its two parts. -/
structure Amplitude (R : Type) where
  re : R
  im : R
deriving DecidableEq, Repr

namespace Amplitude

variable {R : Type} [Scalar R]

------------------------------------------------------------
-- Arithmetic
------------------------------------------------------------

instance : Zero (Amplitude R) where
  zero := { re := 0, im := 0 }

instance : One (Amplitude R) where
  one := { re := 1, im := 0 }

instance : Inhabited (Amplitude R) where
  default := 0

instance : Add (Amplitude R) where
  add a b :=
    { re := a.re + b.re
      im := a.im + b.im }

instance : Mul (Amplitude R) where
  mul a b :=
    { re := a.re * b.re - a.im * b.im
      im := a.re * b.im + a.im * b.re }

instance : Neg (Amplitude R) where
  neg a :=
    { re := -a.re
      im := -a.im }

/- The imaginary unit. -/
def imaginary : Amplitude R :=
  { re := 0, im := 1 }

/- A real amplitude. -/
def ofReal
    (x : R) : Amplitude R :=
  { re := x, im := 0 }

/- The squared modulus. -/
def normSq
    (a : Amplitude R) : R :=
  a.re * a.re + a.im * a.im

/- Divide both parts by a scalar. -/
def divScalar
    (a : Amplitude R)
    (x : R) : Amplitude R :=
  { re := a.re / x
    im := a.im / x }

/- The amplitude of modulus one at an angle. -/
def phase
    (angle : R) : Amplitude R :=
  { re := 1 * Scalar.cos angle
    im := 1 * Scalar.sin angle }

end Amplitude

end QuantumRuntime

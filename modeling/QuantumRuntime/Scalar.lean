import QuantumRuntime.Decimal.Shortest

/-
  This file defines the real arithmetic that angles and
  amplitudes are computed with. Everything above it is written
  for an arbitrary `Scalar`, so the same definitions run on
  floating-point numbers and can be read over exact reals.

  Key definitions include:
    * `Scalar`
    * `Scalar.two`
    * `Scalar.half`
-/

namespace QuantumRuntime

------------------------------------------------------------
-- Scalars
------------------------------------------------------------

/-
  Real arithmetic. `invSqrtTwo` stands for one over the square
  root of two and `eighthTurn` for a quarter of pi; `less` is
  the comparison that decides an outcome from a draw. No law is
  part of the class: floating-point arithmetic has few.
-/
class Scalar (R : Type) extends
    Zero R, One R, Add R, Sub R, Mul R, Div R, Neg R where
  sqrt : R → R
  cos : R → R
  sin : R → R
  invSqrtTwo : R
  eighthTurn : R
  less : R → R → Bool
  text : R → String

namespace Scalar

variable {R : Type} [Scalar R]

/- The scalar two. -/
def two : R :=
  1 + 1

/- The scalar one half. -/
def half : R :=
  1 / two

end Scalar

------------------------------------------------------------
-- Floating-point scalars
------------------------------------------------------------

instance : Scalar Float where
  zero := 0.0
  one := 1.0
  sqrt := Float.sqrt
  cos := Float.cos
  sin := Float.sin
  invSqrtTwo := 0.7071067811865476
  eighthTurn := 0.7853981633974483
  less := fun a b => a < b
  text := shortestText

end QuantumRuntime

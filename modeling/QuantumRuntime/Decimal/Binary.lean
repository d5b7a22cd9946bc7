/-
  This file defines the exact value of a finite binary
  floating-point number and the exact decimal quantities that
  its printed forms are chosen from.

  Key definitions include:
    * `Binary`
    * `Binary.ofBits`
    * `Binary.numerator`
    * `Binary.denominator`
    * `Binary.scale`
    * `digitsText`
-/

namespace QuantumRuntime

------------------------------------------------------------
-- Binary values
------------------------------------------------------------

/-
  A finite non-negative value `significand * 2 ^ exponent`.
  The flag says that the gap to the next smaller value is half
  the gap to the next larger one, which happens at powers of
  two.
-/
structure Binary where
  significand : Nat
  exponent : Int
  narrowBelow : Bool
deriving DecidableEq, Repr

namespace Binary

/-
  The magnitude held by the 64 bits of a finite number. The
  sign bit is ignored.
-/
def ofBits
    (bits : UInt64) : Binary :=
  let field := ((bits >>> 52) &&& 0x7FF).toNat
  let fraction := (bits &&& 0xFFFFFFFFFFFFF).toNat
  if field = 0 then
    { significand := fraction
      exponent := -1074
      narrowBelow := false }
  else
    { significand := (1 <<< 52) + fraction
      exponent := (field : Int) - 1075
      narrowBelow := fraction = 0 && 1 < field }

/- The numerator of the value as a fraction of naturals. -/
def numerator
    (x : Binary) : Nat :=
  x.significand <<< x.exponent.toNat

/- The denominator of the value as a fraction of naturals. -/
def denominator
    (x : Binary) : Nat :=
  1 <<< (-x.exponent).toNat

/-
  The least integer `k` with `x < 10 ^ k`. The first count
  gives `k` when the value is at least one and is zero below
  one; the second gives `-k` below one and is zero otherwise.
  A finite value lies between `10 ^ (-330)` and `10 ^ 310`
  unless it is zero, so the counts see every power they need.
-/
def scale
    (x : Binary) : Int :=
  let num := x.numerator
  let den := x.denominator
  let up := (List.range 311).countP fun j => decide (den * Nat.pow 10 j ≤ num)
  let down := (List.range 331).countP fun j =>
    decide (num * Nat.pow 10 (j + 1) < den)
  (up : Int) - (down : Int)

end Binary

------------------------------------------------------------
-- Digits
------------------------------------------------------------

/- The decimal digits of a natural number. -/
def digitsText
    (n : Nat) : List Char :=
  Nat.toDigits 10 n

/- Whether the sign bit is set among the 64 bits of a number. -/
def signBit
    (bits : UInt64) : Bool :=
  bits >>> 63 = 1

end QuantumRuntime

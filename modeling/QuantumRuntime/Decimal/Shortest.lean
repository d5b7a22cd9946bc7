import QuantumRuntime.Decimal.Binary

/-
  This file defines the positional text with the fewest digits
  that reads back as the same floating-point number.

  Key definitions include:
    * `Binary.ReadsBack`
    * `Decimal`
    * `Binary.shortest`
    * `Decimal.positional`
    * `shortestText`
-/

namespace QuantumRuntime

------------------------------------------------------------
-- Decimals
------------------------------------------------------------

/- A decimal `digits * 10 ^ exponent`. -/
structure Decimal where
  digits : Nat
  exponent : Int
deriving DecidableEq, Repr

namespace Decimal

/-
  Compare `a * 10 ^ i` with `n * 2 ^ j` by cross-multiplying
  naturals.
-/
def compareScaled
    (a : Nat)
    (i : Int)
    (n : Nat)
    (j : Int) : Ordering :=
  compare
    ((a * Nat.pow 10 i.toNat) <<< (-j).toNat)
    ((n * Nat.pow 10 (-i).toNat) <<< j.toNat)

/- Move trailing zeros of the digits into the exponent. -/
def strip
    (d : Decimal) : Decimal :=
  if d.digits = 0 then
    { digits := 0, exponent := 0 }
  else if d.digits % 10 = 0 then
    strip { digits := d.digits / 10, exponent := d.exponent + 1 }
  else
    d
termination_by d.digits
decreasing_by omega

/-
  Write a decimal with a point and no exponent: zeros fill the
  places between the digits and the point, and a whole number
  has no point.
-/
def positional
    (d : Decimal) : List Char :=
  let ds := digitsText d.digits
  if 0 ≤ d.exponent then
    ds ++ List.replicate d.exponent.toNat '0'
  else
    let places := (-d.exponent).toNat
    if places < ds.length then
      ds.take (ds.length - places) ++ '.' :: ds.drop (ds.length - places)
    else
      '0' :: '.' :: List.replicate (places - ds.length) '0' ++ ds

end Decimal

------------------------------------------------------------
-- Shortest digits
------------------------------------------------------------

namespace Binary

/-
  A decimal reads back as `x` when it lies among the reals that
  round to `x`: between the halfway points to the neighbours,
  which belong to `x` exactly when its significand is even.
-/
def ReadsBack
    (x : Binary)
    (d : Decimal) : Prop :=
  let low := if x.narrowBelow then 4 * x.significand - 1 else 4 * x.significand - 2
  let high := 4 * x.significand + 2
  let atLow := Decimal.compareScaled d.digits d.exponent low (x.exponent - 2)
  let atHigh := Decimal.compareScaled d.digits d.exponent high (x.exponent - 2)
  (atLow = .gt ∨ (x.significand % 2 = 0 ∧ atLow = .eq)) ∧
    (atHigh = .lt ∨ (x.significand % 2 = 0 ∧ atHigh = .eq))

instance
    (x : Binary)
    (d : Decimal) :
    Decidable (x.ReadsBack d) := by
  unfold ReadsBack
  infer_instance

/-
  The decimal next to `x` among those with `count` digits that
  reads back as `x`, if there is one. Only the two neighbours
  of `x` on the grid can be nearest, and of two that are
  equally near the larger is taken.
-/
def nearestWith
    (x : Binary)
    (count : Nat) : Option Decimal :=
  let unit := x.scale - (count : Int)
  let num := x.numerator * Nat.pow 10 (-unit).toNat
  let den := x.denominator * Nat.pow 10 unit.toNat
  let below : Decimal := { digits := num / den, exponent := unit }
  let above : Decimal := { digits := num / den + 1, exponent := unit }
  if x.ReadsBack below then
    if x.ReadsBack above ∧ den ≤ 2 * (num % den) then
      some above
    else
      some below
  else if x.ReadsBack above then
    some above
  else
    none

/-
  The decimal with the fewest digits that reads back as `x`.
  Seventeen digits always suffice; the last alternative is the
  exact value.
-/
def shortest
    (x : Binary) : Decimal :=
  if x.significand = 0 then
    { digits := 0, exponent := 0 }
  else
    let found := (List.range 17).findSome? fun n => x.nearestWith (n + 1)
    (found.getD
      { digits := x.numerator * Nat.pow 5 (-x.exponent).toNat
        exponent := -(((-x.exponent).toNat : Nat) : Int) }).strip

end Binary

------------------------------------------------------------
-- Text of a number
------------------------------------------------------------

/-
  The text of a floating-point number: the fewest digits that
  read back as the same number, without an exponent, and with a
  sign on every negative number, zero included.
-/
def shortestText
    (x : Float) : String :=
  let bits := x.toBits
  if x.isNaN then
    "NaN"
  else
    let magnitude :=
      if x.isInf then
        "inf"
      else
        String.ofList (Binary.ofBits bits).shortest.positional
    if signBit bits then "-" ++ magnitude else magnitude

end QuantumRuntime

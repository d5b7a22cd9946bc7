import QuantumRuntime.Decimal.Binary

/-
  This file defines the text of a floating-point number with a
  fixed number of decimal places.

  Key definitions include:
    * `roundDiv`
    * `Binary.fixed`
    * `fixedText`
-/

namespace QuantumRuntime

------------------------------------------------------------
-- Rounding
------------------------------------------------------------

/-
  The integer nearest to `num / den`; a quotient halfway
  between two integers goes to the even one.
-/
def roundDiv
    (num : Nat)
    (den : Nat) : Nat :=
  let quotient := num / den
  let twice := 2 * (num % den)
  if den < twice ∨ (twice = den ∧ quotient % 2 = 1) then
    quotient + 1
  else
    quotient

------------------------------------------------------------
-- Fixed places
------------------------------------------------------------

namespace Binary

/- The exact value rounded to a number of decimal places. -/
def fixed
    (places : Nat)
    (x : Binary) : List Char :=
  let one := Nat.pow 10 places
  let units := roundDiv (x.numerator * one) x.denominator
  let whole := digitsText (units / one)
  let part := digitsText (units % one)
  if places = 0 then
    whole
  else
    whole ++ '.' :: (List.replicate (places - part.length) '0' ++ part)

end Binary

/- The text of a number with a fixed number of decimal places. -/
def fixedText
    (places : Nat)
    (x : Float) : String :=
  let bits := x.toBits
  if x.isNaN then
    "NaN"
  else
    let magnitude :=
      if x.isInf then
        "inf"
      else
        String.ofList ((Binary.ofBits bits).fixed places)
    if signBit bits then "-" ++ magnitude else magnitude

end QuantumRuntime

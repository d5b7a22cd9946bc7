import QuantumRuntime.Sequence.Range

/-
  This file defines access to arrays by 64-bit integers. An
  index outside an array is an error that names the index and
  the length.

  Key definitions include:
    * `checkIndex`
    * `Indexed.get`
    * `Indexed.set`
    * `Indexed.slice`
-/

namespace QuantumRuntime

/- The position that an index names in an array of a given length. -/
def checkIndex
    (index : Int64)
    (length : Nat) : Except ProgramError Nat :=
  if 0 ≤ index.toInt ∧ index.toInt < length then
    .ok index.toInt.toNat
  else
    .error (.indexOutOfRange index length)

namespace Indexed

variable {α : Type}

/- The element at an index. -/
def get
    (items : Array α)
    (index : Int64) : Except ProgramError α :=
  match items[index.toInt.toNat]? with
  | some value =>
      if 0 ≤ index.toInt then
        .ok value
      else
        .error (.indexOutOfRange index items.size)
  | none => .error (.indexOutOfRange index items.size)

/- The array with another element at an index. -/
def set
    (items : Array α)
    (index : Int64)
    (value : α) : Except ProgramError (Array α) := do
  let position ← checkIndex index items.size
  .ok (items.setIfInBounds position value)

/- The array with the element at an index changed. -/
def modify
    (items : Array α)
    (index : Int64)
    (change : α → α) : Except ProgramError (Array α) := do
  let value ← get items index
  set items index (change value)

/-
  The elements selected by a number of elements of a range,
  beginning with one of them. The first bad index decides.
-/
def selectFrom
    (items : Array α)
    (r : Range)
    (first : Nat) : Nat → Except ProgramError (List α)
  | 0 => .ok []
  | remaining + 1 => do
      let value ← get items (r.element first)
      let rest ← selectFrom items r (first + 1) remaining
      .ok (value :: rest)

/- A new array of the elements that a range selects. -/
def slice
    (items : Array α)
    (r : Range) : Except ProgramError (Array α) := do
  let selected ← selectFrom items r 0 r.count
  .ok selected.toArray

end Indexed

end QuantumRuntime

import QuantumRuntime.Failure.Decoding

/-
  This file defines the measurement bases and their one-byte
  codes.

  Key definitions include:
    * `Pauli`
    * `Pauli.code`
    * `Pauli.ofCode`
    * `Pauli.ofCodes`
-/

namespace QuantumRuntime

/- A basis that a qubit can be measured in. -/
inductive Pauli where
  | i
  | x
  | y
  | z
deriving DecidableEq, Repr

namespace Pauli

/- The code of a basis. The third basis has the last code. -/
def code : Pauli → Nat
  | i => 0
  | x => 1
  | z => 2
  | y => 3

/- The basis with a code. -/
def ofCode
    (n : Nat) : Except DecodingError Pauli :=
  match n with
  | 0 => .ok i
  | 1 => .ok x
  | 2 => .ok z
  | 3 => .ok y
  | _ => .error (.invalidPauli n)

/- The bases with a list of codes; the first bad code decides. -/
def ofCodes
    (codes : List Nat) : Except DecodingError (List Pauli) :=
  codes.mapM ofCode

/- The name of a basis. -/
def text : Pauli → String
  | i => "I"
  | x => "X"
  | y => "Y"
  | z => "Z"

end Pauli

end QuantumRuntime

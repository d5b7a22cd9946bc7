/-
  This file defines why a gate or a measurement basis cannot be
  read from its written form.

  Key definitions include:
    * `DecodingError`
    * `DecodingError.message`
-/

namespace QuantumRuntime

/- Why a gate or a basis was not recognised. -/
inductive DecodingError where
  | unknownGate (name : String)
  | parameterCount (gate : String) (expected : Nat) (got : Nat)
  | invalidPauli (code : Nat)
deriving DecidableEq, Repr

namespace DecodingError

/- The wording of a decoding error. -/
def message : DecodingError → String
  | unknownGate name => s!"Unknown gate '{name}'"
  | parameterCount gate expected got =>
      s!"Gate '{gate}' requires {expected} parameters, got {got}"
  | invalidPauli code => s!"Invalid Pauli encoding: {code}"

end DecodingError

end QuantumRuntime

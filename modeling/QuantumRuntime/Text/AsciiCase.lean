/-
  This file defines the lower case of texts whose letters
  outside ASCII keep their case.

  Key definitions include:
    * `asciiLower`
-/

namespace QuantumRuntime

/- A text with its ASCII letters in lower case. -/
def asciiLower
    (s : String) : String :=
  s.map Char.toLower

end QuantumRuntime

/-
  This file defines the characters that are white space, and
  texts that hold nothing else.

  Key definitions include:
    * `IsBlankChar`
    * `IsBlank`
-/

namespace QuantumRuntime

/- The ranges of code points that are white space. -/
def blankRanges : List (Nat × Nat) :=
  [(0x9, 0xD), (0x20, 0x20), (0x85, 0x85), (0xA0, 0xA0),
    (0x1680, 0x1680), (0x2000, 0x200A), (0x2028, 0x2029),
    (0x202F, 0x202F), (0x205F, 0x205F), (0x3000, 0x3000)]

/- A character is white space when its code point is in a range. -/
def IsBlankChar
    (c : Char) : Prop :=
  ∃ range ∈ blankRanges, range.1 ≤ c.toNat ∧ c.toNat ≤ range.2

instance
    (c : Char) :
    Decidable (IsBlankChar c) := by
  unfold IsBlankChar
  infer_instance

/- A text is blank when it holds white space only. -/
def IsBlank
    (s : String) : Prop :=
  ∀ c ∈ s.toList, IsBlankChar c

instance
    (s : String) :
    Decidable (IsBlank s) :=
  List.decidableBAll IsBlankChar s.toList

end QuantumRuntime
